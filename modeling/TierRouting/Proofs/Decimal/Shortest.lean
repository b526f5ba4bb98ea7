import TierRouting.Decimal.Shortest

/-! The shortest numeral of a positive value has a digit that is not zero. -/
namespace TierRouting.Decimal

variable {x : Magnitude} {d : Numeral} {tie : Tie} {grid : Int} {n j : Nat}

theorem powTen_pos (n : Nat) : 0 < powTen n := Nat.pow_pos (by decide)

theorem powTen_le {m : Nat} (h : m ≤ n) : powTen m ≤ powTen n :=
  Nat.pow_le_pow_right (by decide) h

theorem lt_powTen_length (n : Nat) : n < powTen (Nat.toDigits 10 n).length :=
  (Nat.length_toDigits_le_iff (by decide) Nat.length_toDigits_pos).mp (Nat.le_refl _)

theorem powTen_le_of_length (hn : 0 < n) (hj : j < (Nat.toDigits 10 n).length) :
    powTen j ≤ n := by
  cases j with
  | zero => exact hn
  | succ j =>
    refine Nat.not_lt.mp fun hlt => Nat.not_le.mpr hj ?_
    exact (Nat.length_toDigits_le_iff (by decide) (Nat.succ_pos j)).mpr hlt

theorem powTwo_pos (n : Nat) : 0 < powTwo n := Nat.pow_pos (by decide)

theorem compareScaled_zero_lt (hn : 0 < n) (i j : Int) : compareScaled 0 i n j = .lt := by
  have hpos : 0 < n * powTwo j.toNat * powTen (-i).toNat :=
    Nat.mul_pos (Nat.mul_pos hn (powTwo_pos _)) (powTen_pos _)
  simp [compareScaled, Nat.compare_eq_lt, hpos]

namespace Magnitude

/-- Zero lies below every number that rounds to a positive value. -/
theorem digits_pos_of_readsBack (hx : 0 < x.mantissa) (h : x.readsBack d = true) :
    0 < d.digits := by
  refine Nat.pos_of_ne_zero fun h0 => ?_
  have hlow : 0 < 4 * x.mantissa - if x.narrowBelow then 1 else 2 := by split <;> omega
  rw [readsBack, h0, compareScaled_zero_lt hlow] at h
  simp at h

theorem digits_pos_of_onGrid? (hx : 0 < x.mantissa) (h : x.onGrid? tie grid = some d) :
    0 < d.digits := by
  simp only [onGrid?] at h
  split at h
  case h_1 => contradiction
  case h_2 hbelow _ =>
    obtain rfl := Option.some.inj h
    exact digits_pos_of_readsBack hx hbelow
  case h_3 =>
    obtain rfl := Option.some.inj h
    exact Nat.succ_pos _
  case h_4 hbelow _ =>
    have hpos : 0 < x.floorOn grid := digits_pos_of_readsBack hx hbelow
    split at h
    · obtain rfl := Option.some.inj h
      exact hpos
    · obtain rfl := Option.some.inj h
      exact Nat.succ_pos _
    · obtain rfl := Option.some.inj h
      exact Nat.succ_pos _
    · obtain rfl := Option.some.inj h
      exact Nat.add_pos_left hpos _

theorem quotient_pos (hx : 0 < x.mantissa) : 0 < x.quotient.1 ∧ 0 < x.quotient.2 :=
  ⟨Nat.mul_pos hx (powTwo_pos _), powTwo_pos _⟩

/-- On the finest grid the value is at least one. -/
theorem floorOn_pos (hx : 0 < x.mantissa) : 0 < x.floorOn (x.scale - 17) := by
  obtain ⟨hn, hd⟩ := quotient_pos hx
  simp only [floorOn, scale]
  refine Nat.div_pos ?_ (Nat.mul_pos hd (powTen_pos _))
  split
  case isTrue hle =>
    have hq : 0 < x.quotient.1 / x.quotient.2 := Nat.div_pos hle hd
    have hlen := powTen_le_of_length hq (j := (Nat.toDigits 10 (x.quotient.1 / x.quotient.2)).length
      - 17) (Nat.sub_lt Nat.length_toDigits_pos (by decide))
    generalize (Nat.toDigits 10 (x.quotient.1 / x.quotient.2)).length = len at hlen ⊢
    have hexp : ((len : Int) - 17).toNat = len - 17 := by omega
    calc x.quotient.2 * powTen ((len : Int) - 17).toNat
        ≤ x.quotient.2 * (x.quotient.1 / x.quotient.2) := by
          rw [hexp]
          exact Nat.mul_le_mul_left _ hlen
      _ ≤ x.quotient.1 := Nat.mul_div_le ..
      _ ≤ x.quotient.1 * powTen (-((len : Int) - 17)).toNat :=
        Nat.le_mul_of_pos_right _ (powTen_pos _)
  case isFalse hlt =>
    have hlen := lt_powTen_length ((x.quotient.2 - 1) / x.quotient.1)
    generalize (Nat.toDigits 10 ((x.quotient.2 - 1) / x.quotient.1)).length = len at hlen ⊢
    have hup : (1 - (len : Int) - 17).toNat = 0 := by omega
    have hdown : len ≤ (-(1 - (len : Int) - 17)).toNat := by omega
    have hprod : x.quotient.2 - 1 < powTen len * x.quotient.1 := (Nat.div_lt_iff_lt_mul hn).mp hlen
    calc x.quotient.2 * powTen (1 - (len : Int) - 17).toNat
        = x.quotient.2 := by rw [hup]; exact Nat.mul_one _
      _ ≤ x.quotient.1 * powTen len := by rw [Nat.mul_comm]; omega
      _ ≤ x.quotient.1 * powTen (-(1 - (len : Int) - 17)).toNat :=
          Nat.mul_le_mul_left _ (powTen_le hdown)

theorem digits_pos_shortest (hx : 0 < x.mantissa) (tie : Tie) : 0 < (x.shortest tie).digits := by
  unfold shortest
  split
  case h_1 d hd =>
    obtain ⟨n, -, hgrid⟩ := List.exists_of_findSome?_eq_some hd
    have hpos := digits_pos_of_onGrid? hx hgrid
    split
    case isTrue h10 =>
      exact Nat.div_pos (Nat.le_of_dvd hpos (Nat.dvd_of_mod_eq_zero h10)) (by decide)
    case isFalse => exact hpos
  case h_2 => exact floorOn_pos hx

end Magnitude
end TierRouting.Decimal
