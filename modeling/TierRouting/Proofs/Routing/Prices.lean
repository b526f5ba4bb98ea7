import Mathlib
import TierRouting.Tier

/-! The price of a message whose length fits a machine word is a finite number. -/
namespace TierRouting

open Float.Model Float.Model.UnpackedFloat

variable {u v : UnpackedFloat} {k l : Int} {m n size : Nat} {e : Int} {x y : Float}

/-- Zero, or a finite value whose exponent has a bound. -/
inductive Bounded (k : Int) : UnpackedFloat → Prop
  | zero (s : Sign) : Bounded k (.zero s)
  | finite (s : Sign) (m : Nat) (e : Int) (hm : 0 < m) (he : e ≤ k) : Bounded k (.finite s m e hm)

/-- What the bits of a number can stand for, with a bound for the exponent. -/
inductive Packed (k : Int) : UnpackedFloat → Prop
  | zero (s : Sign) : Packed k (.zero s)
  | finite (s : Sign) (m : Nat) (e : Int) (hm : 0 < m) (hsize : m < 2 ^ 53) (he : e ≤ k) :
      Packed k (.finite s m e hm)

theorem mantissa_shiftRight_le (em : ExtendedMantissa) (n : Nat) :
    (em >>> n).mantissa ≤ em.mantissa := by
  have repeat_le (n : Nat) :
      (n.repeat ExtendedMantissa.shiftRightOne em).mantissa ≤ em.mantissa := by
    induction n with
    | zero => exact Nat.le_refl _
    | succ n ih => exact Nat.le_trans (Nat.div_le_self _ 2) ih
  exact repeat_le n

theorem roundedMantissa_le (em : ExtendedMantissa) : em.roundedMantissa ≤ em.mantissa + 1 := by
  unfold ExtendedMantissa.roundedMantissa Accuracy.roundToNearestEven
  split
  · exact Nat.le_succ _
  · exact Nat.le_succ _
  · have := Nat.mod_lt em.mantissa (y := 2) (by decide)
    omega
  · exact Nat.le_refl _

theorem log2_lt_of_lt_pow (h : m < 2 ^ size) (hsize : 0 < size) : m.log2 < size := by
  by_cases hm : m = 0
  · subst hm
    exact hsize
  · exact (Nat.log2_lt hm).mpr h

/-- Rounding shifts a mantissa at most twice, each time by no more than its size. -/
theorem bounded_roundWithAccuracy {s : Sign} {a : Accuracy} (hm : m < 2 ^ size) (hsize : 53 ≤ size)
    (he : e + 2 * size ≤ k) (hleast : 2 * (size : Int) ≤ k + 1074) :
    Bounded k (roundWithAccuracy .binary64 s m e a) := by
  unfold roundWithAccuracy shiftToTargetExponent shiftToExponent
  dsimp only
  generalize hem : (ExtendedMantissa.ofMantissaAndAccuracy m a >>>
    (Format.binary64.targetExponent (totalExponent m e) - e).toNat) = em
  have hround : em.roundedMantissa < 2 ^ (size + 1) := by
    have hle := mantissa_shiftRight_le (ExtendedMantissa.ofMantissaAndAccuracy m a)
      (Format.binary64.targetExponent (totalExponent m e) - e).toNat
    have hof : (ExtendedMantissa.ofMantissaAndAccuracy m a).mantissa = m := by
      unfold ExtendedMantissa.ofMantissaAndAccuracy
      split
      · rfl
      · rfl
      · rfl
      · rfl
    rw [hem, hof] at hle
    have := roundedMantissa_le em
    rw [Nat.pow_succ]
    omega
  have hlog := log2_lt_of_lt_pow hm (by omega)
  have hlog' := log2_lt_of_lt_pow hround (by omega)
  split
  · exact .zero s
  · refine .finite s _ _ _ ?_
    simp only [Format.targetExponent, totalExponent, Format.minExponent, Format.mantissaBits]
    omega

/-- An exponent field below the greatest one stands for a number. -/
theorem packed_unpack {b : BitVec Format.binary64.numBits} {field : Nat} (hfield : field < 2047)
    (hexp : unpackExponent b = BitVec.ofNat 11 field) (he : (field : Int) - 1075 ≤ k)
    (hk : -1074 ≤ k) : Packed k (UnpackedFloat.unpack .binary64 b) := by
  have hnat : (BitVec.ofNat 11 field).toNat = field := by
    rw [BitVec.toNat_ofNat]
    omega
  have hne : BitVec.ofNat 11 field ≠ -1#11 := by
    intro h
    have hall : field = 2047 := hnat.symm.trans (congrArg BitVec.toNat h)
    omega
  unfold UnpackedFloat.unpack
  simp only [hexp]
  split
  · next h => exact absurd h hne
  · split
    · next hzero =>
      have hfield : field = 0 := hnat.symm.trans (congrArg BitVec.toNat hzero)
      split
      · exact .zero _
      · have hsize : (unpackMantissa b).toNat < 2 ^ 52 := (unpackMantissa b).isLt
        refine .finite _ _ _ _ (by omega) ?_
        simp only [Format.exponentBias, hnat]
        omega
    · refine .finite _ _ _ _ (1#1 ++ unpackMantissa b).isLt ?_
      simp only [Format.exponentBias, hnat]
      omega

theorem packed_unpack_pack (hu : Bounded k u) (hk : -1074 ≤ k) (hk' : k < 972) :
    Packed k (UnpackedFloat.unpack .binary64 (UnpackedFloat.pack .binary64 u)) := by
  cases hu with
  | zero s =>
    exact packed_unpack (Nat.zero_lt_succ _) (unpackExponent_packComponents ..) (by omega) hk
  | finite s m e hm he =>
    have hbias : Format.binary64.exponentBias = 1023 := rfl
    unfold UnpackedFloat.pack
    dsimp only
    split
    · next hover => omega
    · next hover =>
      split
      · exact packed_unpack (by omega) (unpackExponent_packComponents ..) (by omega) hk
      · exact packed_unpack (Nat.zero_lt_succ _) (unpackExponent_packComponents ..) (by omega) hk

theorem Packed.isFinite (hu : Packed k u) : u.isFinite = true := by
  cases hu with
  | zero => rfl
  | finite => rfl

theorem bounded_mul {s t : Sign} {f : Int} {hm : 0 < m} {hn : 0 < n} (hprod : m * n < 2 ^ size)
    (hsize : 53 ≤ size) (he : e + f + 2 * size ≤ k) (hleast : 2 * (size : Int) ≤ k + 1074) :
    Bounded k (UnpackedFloat.mul .binary64 (.finite s m e hm) (.finite t n f hn)) :=
  bounded_roundWithAccuracy hprod hsize he hleast

theorem Packed.mul {j : Int} (hu : Packed k u) (hv : Packed l v) (hj : k + l + 212 ≤ j)
    (hleast : -862 ≤ j) : Bounded j (UnpackedFloat.mul .binary64 u v) := by
  cases hu with
  | zero s =>
    cases hv with
    | zero t => exact .zero _
    | finite t m' e' hm' hsize' he' => exact .zero _
  | finite s m e hm hsize he =>
    cases hv with
    | zero t => exact .zero _
    | finite t m' e' hm' hsize' he' =>
      have hprod : m * m' < 2 ^ 106 := calc
        m * m' ≤ m * 2 ^ 53 := Nat.mul_le_mul_left m (Nat.le_of_lt hsize')
        _ < 2 ^ 53 * 2 ^ 53 := Nat.mul_lt_mul_of_pos_right hsize (by decide)
        _ = 2 ^ 106 := by decide
      exact bounded_mul hprod (by omega) (by omega) (by omega)

/-- The quotient is taken of a mantissa that is shifted far enough for a full result. -/
theorem Packed.div {j : Int} {t : Sign} {hn : 0 < n} (hu : Packed k u) (hsize : n < 2 ^ 53)
    (hj : k - e + 318 ≤ j) (hleast : -756 ≤ j) :
    Bounded j (UnpackedFloat.div .binary64 u (.finite t n e hn)) := by
  cases hu with
  | zero s => exact .zero _
  | finite s m e' hm hsize' he' =>
    have hlog := log2_lt_of_lt_pow hsize (by decide)
    unfold UnpackedFloat.div divCore
    dsimp only
    generalize htarget : min (e' - e) (Format.binary64.targetExponent
      (totalExponent m e' - totalExponent n e)) = target
    simp only [Format.targetExponent, totalExponent, Format.minExponent, Format.mantissaBits]
      at htarget
    have hshift : (e' - e - target).toNat ≤ 106 := by omega
    have hquot : m <<< (e' - e - target).toNat / n < 2 ^ 159 := calc
      m <<< (e' - e - target).toNat / n ≤ m <<< (e' - e - target).toNat := Nat.div_le_self _ _
      _ = m * 2 ^ (e' - e - target).toNat := Nat.shiftLeft_eq ..
      _ ≤ m * 2 ^ 106 := Nat.mul_le_mul_left m (Nat.pow_le_pow_right (by decide) hshift)
      _ < 2 ^ 53 * 2 ^ 106 := Nat.mul_lt_mul_of_pos_right hsize' (by decide)
      _ = 2 ^ 159 := by decide
    exact bounded_roundWithAccuracy hquot (by omega) (by omega) (by omega)

theorem bounded_round {s : Sign} (hm : m < 2 ^ 53) :
    Bounded 212 (UnpackedFloat.round .binary64 s m 0) := by
  have hlog := log2_lt_of_lt_pow hm (by decide)
  unfold UnpackedFloat.round decreaseExponent
  dsimp only
  generalize htarget : Format.binary64.targetExponent (totalExponent m 0) = target
  simp only [Format.targetExponent, totalExponent, Format.minExponent, Format.mantissaBits]
    at htarget
  have hshift : (0 - target).toNat ≤ 53 := by omega
  have hsize : m <<< (0 - target).toNat < 2 ^ 106 := calc
    m <<< (0 - target).toNat = m * 2 ^ (0 - target).toNat := Nat.shiftLeft_eq ..
    _ ≤ m * 2 ^ 53 := Nat.mul_le_mul_left m (Nat.pow_le_pow_right (by decide) hshift)
    _ < 2 ^ 53 * 2 ^ 53 := Nat.mul_lt_mul_of_pos_right hm (by decide)
    _ = 2 ^ 106 := by decide
  exact bounded_roundWithAccuracy hsize (by omega) (by omega) (by omega)

theorem bounded_ofNat (hn : n < 2 ^ 53) : Bounded 212 (UnpackedFloat.ofNat .binary64 n) := by
  unfold UnpackedFloat.ofNat UnpackedFloat.ofInt UnpackedFloat.normalize
  split
  · next h =>
    rw [Int.compare_eq_lt] at h
    omega
  · exact .zero _
  · exact bounded_round hn

theorem bounded_ofScientific (hn : n < 2 ^ 64) :
    Bounded 424 (UnpackedFloat.ofScientific .binary64 n 0) := by
  have hsize : n <<< 53 * 10 ^ 0 < 2 ^ 118 := by
    rw [Nat.pow_zero, Nat.mul_one, Nat.shiftLeft_eq]
    omega
  unfold UnpackedFloat.ofScientific
  by_cases hzero : n = 0
  · rw [dif_pos hzero]
    exact .zero _
  · have hover : ¬ (0 : Int) > 2 ^ Format.binary64.exponentBits := by decide
    have hunder : ¬ (0 : Int) < -(2 ^ Format.binary64.exponentBits + (n.log2 : Int)) := by
      have : (0 : Int) < 2 ^ Format.binary64.exponentBits := by decide
      omega
    rw [dif_neg hzero, if_neg hover, if_neg hunder, if_pos (Int.le_refl 0)]
    exact bounded_mul hsize (by decide) (by decide) (by decide)

/-- The bits of a number stand for a value whose exponent has a bound. -/
def ExponentLe (k : Int) (x : Float) : Prop := Packed k x.toModel.unpack

theorem exponentLe_pack (hu : Bounded k u) (hk : -1074 ≤ k) (hk' : k < 972) :
    ExponentLe k (.ofModel (.pack u)) := packed_unpack_pack hu hk hk'

def exponentField (x : Float) : Nat := (@unpackExponent .binary64 x.toModel.toBits.toBitVec).toNat

theorem exponentLe_of_field (hfield : exponentField x < 2047)
    (he : (exponentField x : Int) - 1075 ≤ k) (hk : -1074 ≤ k) : ExponentLe k x := by
  refine packed_unpack hfield ?_ he hk
  rw [exponentField, BitVec.ofNat_toNat, BitVec.setWidth_eq]

theorem exponentLe_ofNat (hn : n < 2 ^ 64) : ExponentLe 424 (Float.ofNat n) := by
  unfold Float.ofNat OfScientific.ofScientific instOfScientificFloat Float.ofScientific
  dsimp only
  split
  · next h =>
    have hof : ExponentLe 212 n.toUInt64.toFloat := by
      refine exponentLe_pack ?_ (by decide) (by decide)
      have hword : n.toUInt64.toNat = n := Nat.mod_eq_of_lt hn
      rw [UnpackedFloat.ofUInt64, hword]
      exact bounded_ofNat h.1
    have hone : ExponentLe 0 Float.exactlyRepresentablePowersOfTen[0] :=
      exponentLe_of_field (by decide) (by decide) (by decide)
    exact exponentLe_pack (hof.mul hone (by decide) (by decide)) (by decide) (by decide)
  · exact exponentLe_pack (bounded_ofScientific hn) (by decide) (by decide)

theorem exponentLe_price (t : Tier) : ExponentLe (-59) t.definition.costPer1kInput := by
  cases t with
  | t0 => exact exponentLe_of_field (by decide) (by decide) (by decide)
  | t1 => exact exponentLe_of_field (by decide) (by decide) (by decide)
  | t2 => exact exponentLe_of_field (by decide) (by decide) (by decide)
  | t3 => exact exponentLe_of_field (by decide) (by decide) (by decide)
  | t4 => exact exponentLe_of_field (by decide) (by decide) (by decide)

theorem unpack_thousand : (1000.0 : Float).toModel.unpack =
    .finite .positive (1000 * 2 ^ 43) (-43) (by decide) := by
  rfl

/-- The message length is a word, so the cost is nowhere near the greatest finite number. -/
theorem isFinite_of_inputCost? {t : Tier} {chars : Nat} (hchars : chars < 2 ^ 64)
    (h : t.inputCost? chars = some x) : x.isFinite = true := by
  unfold Tier.inputCost? at h
  split at h
  · contradiction
  · cases h
    have hthousands : ExponentLe 785 (Float.ofNat ((chars + 3) / 4) / 1000.0) := by
      refine exponentLe_pack (k := 785) ?_ (by decide) (by decide)
      rw [unpack_thousand]
      exact (exponentLe_ofNat (by omega)).div (by decide) (by decide) (by decide)
    have hcost : ExponentLe 938
        (Float.ofNat ((chars + 3) / 4) / 1000.0 * t.definition.costPer1kInput) :=
      exponentLe_pack (hthousands.mul (exponentLe_price t) (by decide) (by decide))
        (by decide) (by decide)
    exact hcost.isFinite

end TierRouting
