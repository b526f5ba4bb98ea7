import Mathlib
import TierRouting.Decimal.Layout

/-! The bits of a finite floating-point number stand for zero or for a positive magnitude. -/
namespace TierRouting.Decimal

open Float.Model Float.Model.UnpackedFloat

variable {spec : Format}

def BinaryFormat.ofFormat (spec : Format) : BinaryFormat :=
  ⟨spec.mantissaBitsWithoutImplicit, spec.exponentBits⟩

theorem toNat_unpackExponent (b : BitVec spec.numBits) : (unpackExponent b).toNat =
    b.toNat / 2 ^ spec.mantissaBitsWithoutImplicit % 2 ^ spec.exponentBits := by
  have hwidth : spec.mantissaBitsWithoutImplicit + spec.exponentBits - 1 -
      spec.mantissaBitsWithoutImplicit + 1 = spec.exponentBits := by
    have := spec.he
    omega
  rw [unpackExponent, BitVec.toNat_cast, BitVec.extractLsb_toNat, hwidth, Nat.shiftRight_eq_div_pow]

theorem exponent_ne_of_isFinite {b : BitVec spec.numBits}
    (h : (UnpackedFloat.unpack spec b).isFinite = true) :
    b.toNat / 2 ^ spec.mantissaBitsWithoutImplicit % 2 ^ spec.exponentBits ≠
      2 ^ spec.exponentBits - 1 := by
  intro hmax
  have hexp : unpackExponent b = -BitVec.ofNat spec.exponentBits 1 := by
    rw [BitVec.neg_one_eq_allOnes, ← BitVec.toNat_inj, toNat_unpackExponent, hmax,
      BitVec.toNat_allOnes]
  unfold UnpackedFloat.unpack at h
  simp only [hexp, if_true] at h
  split at h
  · contradiction
  · contradiction

/-- What the bits of a number that is finite can stand for. -/
inductive IsReal : Reading → Prop
  | zero (negative : Bool) : IsReal (.zero negative)
  | finite (negative : Bool) (x : Magnitude) (hx : 0 < x.mantissa) : IsReal (.finite negative x)

theorem isReal_read {b : BitVec spec.numBits}
    (h : (UnpackedFloat.unpack spec b).isFinite = true) :
    IsReal ((BinaryFormat.ofFormat spec).read b.toNat) := by
  have hne := exponent_ne_of_isFinite h
  unfold BinaryFormat.read
  dsimp only
  split
  · next hmax => exact absurd hmax hne
  · split
    · split
      · exact .zero _
      · next hfraction => exact .finite _ _ (Nat.pos_of_ne_zero hfraction)
    · exact .finite _ _ (Nat.add_pos_left (Nat.pow_pos (by decide)) _)

theorem isReal_float {x : Float} (h : x.isFinite = true) :
    IsReal (binary64.read x.toBits.toNat) := @isReal_read Format.binary64 _ h

theorem isReal_float32 {x : Float32} (h : x.isFinite = true) :
    IsReal (binary32.read x.toBits.toNat) := @isReal_read Format.binary32 _ h

end TierRouting.Decimal
