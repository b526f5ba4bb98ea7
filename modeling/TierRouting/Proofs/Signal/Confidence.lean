import Mathlib
import TierRouting.Signal.Classify

/-! Weights are not negative, so clamping leaves every confidence as its stage gives it. -/
namespace TierRouting

open Float.Model Float.Model.UnpackedFloat

variable {spec : Format} {u v : UnpackedFloat} {x y : Float32}

/-- Not a number counts as well: it is never below zero. -/
inductive SignClear : UnpackedFloat → Prop
  | notANumber : SignClear .notANumber
  | infinity : SignClear (.infinity .positive)
  | zero : SignClear (.zero .positive)
  | finite (m : Nat) (e : Int) (hm : 0 < m) : SignClear (.finite .positive m e hm)

instance : DecidablePred SignClear
  | .notANumber => isTrue .notANumber
  | .infinity .positive => isTrue .infinity
  | .infinity .negative => isFalse nofun
  | .zero .positive => isTrue .zero
  | .zero .negative => isFalse nofun
  | .finite .positive m e hm => isTrue (.finite m e hm)
  | .finite .negative _ _ _ => isFalse nofun

theorem SignClear.unpackSign_pack (hu : SignClear u) :
    unpackSign (UnpackedFloat.pack spec u) = 0#1 := by
  cases hu with
  | notANumber => exact unpackSign_packComponents ..
  | infinity => exact unpackSign_packComponents ..
  | zero => exact unpackSign_packComponents ..
  | finite m e hm =>
    unfold UnpackedFloat.pack
    dsimp only
    split
    · exact unpackSign_packComponents ..
    · split
      · exact unpackSign_packComponents ..
      · exact unpackSign_packComponents ..

theorem signClear_unpack {b : BitVec spec.numBits} (hb : unpackSign b = 0#1) :
    SignClear (UnpackedFloat.unpack spec b) := by
  have hs : Sign.ofBitVec (unpackSign b) = .positive := by rw [hb]; rfl
  unfold UnpackedFloat.unpack
  simp only [hs]
  split
  · split
    · exact .infinity
    · exact .notANumber
  · split
    · split
      · exact .zero
      · exact .finite ..
    · exact .finite ..

theorem signClear_roundWithAccuracy {m : Nat} {e : Int} {a : Accuracy} :
    SignClear (roundWithAccuracy spec .positive m e a) := by
  unfold roundWithAccuracy
  dsimp only
  split
  · exact .zero
  · exact .finite ..

theorem SignClear.add (hu : SignClear u) (hv : SignClear v) :
    SignClear (UnpackedFloat.add spec u v) := by
  cases hu with
  | notANumber => exact .notANumber
  | infinity =>
    cases hv with
    | notANumber => exact .notANumber
    | _ => exact .infinity
  | zero =>
    cases hv with
    | notANumber => exact .notANumber
    | infinity => exact .infinity
    | zero => exact .zero
    | finite => exact .finite ..
  | finite =>
    cases hv with
    | notANumber => exact .notANumber
    | infinity => exact .infinity
    | zero => exact .finite ..
    | finite =>
      unfold UnpackedFloat.add UnpackedFloat.normalize
      dsimp only
      split
      case h_1 hlt =>
        have := Int.compare_eq_lt.mp hlt
        simp only [Sign.apply] at this
        omega
      · exact .zero
      · exact signClear_roundWithAccuracy

theorem SignClear.mul (hu : SignClear u) (hv : SignClear v) :
    SignClear (UnpackedFloat.mul spec u v) := by
  cases hu with
  | notANumber => exact .notANumber
  | infinity =>
    cases hv with
    | notANumber => exact .notANumber
    | infinity => exact .infinity
    | zero => exact .notANumber
    | finite => exact .infinity
  | zero =>
    cases hv with
    | notANumber => exact .notANumber
    | infinity => exact .notANumber
    | zero => exact .zero
    | finite => exact .zero
  | finite =>
    cases hv with
    | notANumber => exact .notANumber
    | infinity => exact .infinity
    | zero => exact .zero
    | finite => exact signClear_roundWithAccuracy

def NonNegative (x : Float32) : Prop := SignClear x.toModel.unpack

instance : DecidablePred NonNegative := fun _ => inferInstanceAs (Decidable (SignClear _))

theorem nonNegative_pack (hu : SignClear u) : NonNegative (.ofModel (.pack u)) :=
  signClear_unpack hu.unpackSign_pack

theorem NonNegative.add (hx : NonNegative x) (hy : NonNegative y) : NonNegative (x + y) :=
  nonNegative_pack (SignClear.add hx hy)

theorem NonNegative.mul (hx : NonNegative x) (hy : NonNegative y) : NonNegative (x * y) :=
  nonNegative_pack (SignClear.mul hx hy)

theorem SignClear.not_lt_zero (hu : SignClear u) : u.lt (.zero .positive) = false := by
  cases hu with
  | notANumber => rfl
  | infinity => rfl
  | zero => rfl
  | finite => rfl

theorem lt_iff_unpack_lt : x < y ↔ x.toModel.unpack.lt y.toModel.unpack = true :=
  decide_eq_true_iff

theorem NonNegative.not_lt_zero (hx : NonNegative x) : ¬ x < 0 := by
  have h0 : (0 : Float32).toModel.unpack = .zero .positive := by rfl
  rw [lt_iff_unpack_lt, h0, SignClear.not_lt_zero hx]
  exact Bool.false_ne_true

/-- Numbers in the same form are ordered by their exponents first. -/
theorem not_lt_of_exponent_lt {m m' : Nat} {e e' : Int} {hm hm'} (he : e < e') :
    (UnpackedFloat.finite .positive m' e' hm').lt (.finite .positive m e hm) = false := by
  have hgt : compare e' e = .gt := Int.compare_eq_gt.mpr he
  simp [UnpackedFloat.lt, UnpackedFloat.compare, hgt]

theorem not_lt_of_lt {m m' : Nat} {e e' : Int} {hm hm'} (he : e < e')
    (hu : u.lt (.finite .positive m e hm)) :
    (UnpackedFloat.finite .positive m' e' hm').lt u = false := by
  cases u with
  | notANumber => rfl
  | infinity s =>
    cases s with
    | positive => contradiction
    | negative => rfl
  | zero s => rfl
  | finite s k i hk =>
    cases s with
    | negative => rfl
    | positive =>
      simp only [UnpackedFloat.lt, UnpackedFloat.compare, beq_iff_eq, Option.some.injEq,
        Ordering.then_eq_lt, Int.compare_eq_lt, Int.compare_eq_eq] at hu
      exact not_lt_of_exponent_lt (by omega)

/-- A confidence that is capped below one is left as it is. -/
theorem clampConfidence_capped {m : Nat} {e : Int} {hm} (hx : NonNegative x)
    (hy : y.toModel.unpack = .finite .positive m e hm) (he : e < -23) :
    clampConfidence (if x < y then x else y) = if x < y then x else y := by
  -- One is `2 ^ 23` units of exponent `-23`.
  have h1 : (1 : Float32).toModel.unpack = .finite .positive 8388608 (-23) (by omega) := by rfl
  have unclamped {z : Float32} (hz : NonNegative z)
      (hlt : (1 : Float32).toModel.unpack.lt z.toModel.unpack = false) :
      clampConfidence z = z := by
    have hz1 : ¬ 1 < z := by simp [lt_iff_unpack_lt, hlt]
    rw [clampConfidence, if_neg hz.not_lt_zero, if_neg hz1]
  split
  case isTrue hlt =>
    rw [lt_iff_unpack_lt, hy] at hlt
    exact unclamped hx (h1 ▸ not_lt_of_lt he hlt)
  case isFalse =>
    refine unclamped ?_ ?_
    · rw [NonNegative, hy]
      exact .finite ..
    · rw [h1, hy]
      exact not_lt_of_exponent_lt he

theorem nonNegative_score {signals : List Signal} (h : ∀ s ∈ signals, NonNegative s.weight) :
    NonNegative (score signals) := by
  -- The sum is built from the left, so the induction is for every sum so far.
  have from_sum (sum : Float32) (hsum : NonNegative sum) : NonNegative
      (signals.foldl (fun sum s => if s.isMatch then sum + s.weight else sum) sum) := by
    induction signals generalizing sum with
    | nil => exact hsum
    | cons s rest ih =>
      refine ih (fun s' hs' => h s' (List.mem_cons_of_mem _ hs')) _ ?_
      dsimp only
      split
      · exact hsum.add (h s List.mem_cons_self)
      · exact hsum
  exact from_sum 0 (by decide +kernel)

theorem clampConfidence_judgeFlagship {v : Verdict} (hx : NonNegative x)
    (hv : judgeFlagship x = some v) : clampConfidence v.confidence = v.confidence := by
  have hcap : (0.95 : Float32).toModel.unpack = .finite .positive 15938355 (-24) (by omega) := by
    rfl
  have hsum : NonNegative (0.6 + x) := NonNegative.add (by decide +kernel) hx
  unfold judgeFlagship at hv
  split at hv
  · obtain rfl := Option.some.inj hv
    exact clampConfidence_capped hsum hcap (by omega)
  · contradiction

theorem clampConfidence_judgeComplex {v : Verdict} (hx : NonNegative x)
    (hv : judgeComplex x = some v) : clampConfidence v.confidence = v.confidence := by
  have hcap : (0.9 : Float32).toModel.unpack = .finite .positive 15099494 (-24) (by omega) := by
    rfl
  have hsum : NonNegative (0.5 + x * 0.4) :=
    NonNegative.add (by decide +kernel) (hx.mul (by decide +kernel))
  unfold judgeComplex at hv
  split at hv
  · obtain rfl := Option.some.inj hv
    exact clampConfidence_capped hsum hcap (by omega)
  · contradiction

end TierRouting
