import AmpArticle.Number.Quantity
import AmpArticle.Proofs.Number.Rounding

/-!
Values of rounded numbers, as far as they decide whether something is larger than a half, and so is rounded to a
positive whole number.

Results:
- `toRat_nearest`: the value of a rounded number is its mantissa times the power of its last bit;
- `half_lt_nearest_iff`: what is rounded to more than a half;
- `half_le_nearest`: rounding takes away no more than half of a number;
- `one_le_toNearestInt_iff`: the nearest whole number is positive just when a number is more than a half.
-/

namespace AmpArticle.Double

variable {q : Rat} (negativeZero : Bool)

theorem nearest_of_pos (hq : 0 < q) : nearest q negativeZero = nearestMagnitude false q := by
  rw [nearest, if_neg hq.ne', abs_eq, abs_of_pos hq, decide_eq_false hq.not_gt]

/-- **The value of a rounded number.** A carry to the next power of two does not change it. -/
theorem toRat_nearest (hq : 0 < q) (hlimit : q < limit) :
    (nearest q negativeZero).toRat = roundedMantissa q * (2 : Rat) ^ lastExponent q := by
  have hfinite := (nearestMagnitude_isFinite_iff false hq).2 hlimit
  obtain ⟨hzero, -⟩ := roundedMantissa_bounds hq
  have hmantissa : ((roundedMantissa q).toNat : Rat) = roundedMantissa q := by
    exact_mod_cast Int.toNat_of_nonneg hzero
  rw [nearest_of_pos negativeZero hq]
  rw [nearestMagnitude_eq] at hfinite ⊢
  split_ifs at hfinite ⊢ with hcarry hlarge hlarge
  · cases hfinite
  · rw [← hmantissa, hcarry]
    simp only [toRat, toRat?, Option.getD_some, Bool.false_eq_true, if_false, zpow_add_one₀ (two_ne_zero' Rat)]
    push_cast
    ring
  · cases hfinite
  · simp only [toRat, toRat?, Option.getD_some, Bool.false_eq_true, if_false, hmantissa]

/-- rounding takes away no more than half of the last bit -/
theorem sub_half_le_nearest (hq : 0 < q) (hlimit : q < limit) :
    q - (2 : Rat) ^ lastExponent q / 2 ≤ (nearest q negativeZero).toRat := by
  have hround : q / (2 : Rat) ^ lastExponent q - 1 / 2 ≤ roundedMantissa q := by
    by_contra h
    have hnot : ¬ roundedMantissa q + 1 ≤ roundHalfEven (q / (2 : Rat) ^ lastExponent q) := by
      rw [roundedMantissa]
      omega
    rw [le_roundHalfEven_iff] at hnot
    push_cast at hnot
    exact hnot (.inl (by linarith))
  rw [toRat_nearest negativeZero hq hlimit]
  calc q - (2 : Rat) ^ lastExponent q / 2 = (q / (2 : Rat) ^ lastExponent q - 1 / 2) * (2 : Rat) ^ lastExponent q := by
        field_simp
    _ ≤ roundedMantissa q * (2 : Rat) ^ lastExponent q := by
        gcongr

/-- rounding takes away no more than half of a number that is not below the smallest one -/
theorem half_le_nearest (hsmall : (2 : Rat) ^ minExponent ≤ q) (hlimit : q < limit) :
    q / 2 ≤ (nearest q negativeZero).toRat := by
  have hq : 0 < q := lt_of_lt_of_le (by positivity) hsmall
  have hbit : (2 : Rat) ^ lastExponent q ≤ q := by
    rcases max_choice (binaryExponent q - 52) minExponent with h | h
    · rw [lastExponent, h]
      exact (zpow_le_zpow_right₀ (by norm_num) (by omega)).trans (binaryExponent_spec hq).1
    · rw [lastExponent, h]
      exact hsmall
  have hnearest := sub_half_le_nearest negativeZero hq hlimit
  linarith

/-- **What is rounded to more than a half**: the tie just above it goes down. -/
theorem half_lt_nearest_iff (hq : 0 < q) (hlimit : q < limit) :
    1 / 2 < (nearest q negativeZero).toRat ↔ 1 / 2 + 1 / 2 ^ 54 < q := by
  obtain ⟨hlower, hupper⟩ := binaryExponent_spec hq
  obtain ⟨-, hmax⟩ := roundedMantissa_bounds hq
  have hpos : (0 : Rat) < (2 : Rat) ^ lastExponent q := by positivity
  rw [toRat_nearest negativeZero hq hlimit]
  rcases lt_trichotomy (binaryExponent q) (-1) with h | h | h
  · -- below a half nothing is rounded to more than a half
    have hle : (2 : Rat) ^ lastExponent q ≤ (2 : Rat) ^ (-54 : Int) :=
      zpow_le_zpow_right₀ (by norm_num) (by simp only [lastExponent, minExponent]; omega)
    have hmantissa : (roundedMantissa q : Rat) ≤ 2 ^ 53 := by exact_mod_cast hmax
    have hbelow : q < (2 : Rat) ^ (-1 : Int) := hupper.trans_le (zpow_le_zpow_right₀ (by norm_num) (by omega))
    have hproduct : roundedMantissa q * (2 : Rat) ^ lastExponent q ≤ 2 ^ 53 * (2 : Rat) ^ (-54 : Int) := by gcongr
    norm_num at hbelow hproduct
    exact iff_of_false (by linarith) (by norm_num; linarith)
  · -- the last bit of a number from a half up to one
    have hlast : lastExponent q = -53 := by
      simp only [lastExponent, minExponent]
      omega
    have hmore : (1 : Rat) / 2 < roundedMantissa q * (2 : Rat) ^ (-53 : Int) ↔ 2 ^ 52 + 1 ≤ roundedMantissa q := by
      rw [Int.add_one_le_iff, ← Int.cast_lt (R := Rat)]
      norm_num
      constructor <;> intro h <;> linarith
    rw [hlast, hmore, roundedMantissa, hlast, le_roundHalfEven_iff]
    norm_num
    constructor <;> intro h <;> linarith
  · -- a number from one on stays there
    have hone : (1 : Rat) ≤ q := by
      have hpow : (2 : Rat) ^ (0 : Int) ≤ (2 : Rat) ^ binaryExponent q := zpow_le_zpow_right₀ (by norm_num) (by omega)
      rw [zpow_zero] at hpow
      exact hpow.trans hlower
    have hbit : (2 : Rat) ^ lastExponent q ≤ q / 2 := by
      have hlast : lastExponent q ≤ binaryExponent q - 1 := by
        simp only [lastExponent, minExponent]
        omega
      calc (2 : Rat) ^ lastExponent q ≤ (2 : Rat) ^ (binaryExponent q - 1) := zpow_le_zpow_right₀ (by norm_num) hlast
        _ = (2 : Rat) ^ binaryExponent q / 2 := zpow_sub_one₀ (by norm_num) _
        _ ≤ q / 2 := by linarith
    have hnearest := sub_half_le_nearest negativeZero hq hlimit
    rw [toRat_nearest negativeZero hq hlimit] at hnearest
    exact iff_of_true (by linarith) (by norm_num; linarith)

/-- **When the nearest whole number is positive**: a half itself goes down to zero. -/
theorem one_le_toNearestInt_iff {x : Double} {n : Int} (h : x.toNearestInt = .ok n) : 1 ≤ n ↔ 1 / 2 < x.toRat := by
  have hn : n = roundHalfEven x.toRat := by
    cases x <;> cases h
    rfl
  rw [hn, le_roundHalfEven_iff]
  norm_num

/-! ## Results of operations -/

section Operations

variable {x y : Double}

/-- a product is a number just of numbers, and then it is rounded once -/
theorem mul_of_isFinite (h : (x.mul y).isFinite = true) :
    x.isFinite = true ∧ y.isFinite = true ∧ ∃ negative, x.mul y = nearest (x.toRat * y.toRat) negative := by
  cases x with
  | nan => cases h
  | infinity negative =>
    cases y with
    | nan => cases h
    | infinity negative' => cases h
    | finite negative' m e =>
      simp only [mul] at h
      split at h <;> cases h
  | finite negative m e =>
    cases y with
    | nan => cases h
    | infinity negative' =>
      simp only [mul] at h
      split at h <;> cases h
    | finite negative' m' e' => exact ⟨rfl, rfl, _, rfl⟩

theorem le_larger (hx : x.isFinite = true) (hy : y.isFinite = true) :
    x.toRat ≤ (larger x y).toRat ∧ y.toRat ≤ (larger x y).toRat := by
  have hlt : x.lt y = decide (x.toRat < y.toRat) := by
    cases x <;> cases hx
    cases y <;> cases hy
    rfl
  unfold larger
  rw [hlt]
  split
  · rename_i h
    exact ⟨(of_decide_eq_true h).le, le_rfl⟩
  · rename_i h
    exact ⟨le_rfl, not_lt.1 fun hlt => h (decide_eq_true hlt)⟩

end Operations

end AmpArticle.Double
