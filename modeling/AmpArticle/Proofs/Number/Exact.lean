import AmpArticle.Proofs.Number.Nearness
import AmpArticle.Proofs.Number.Values

/-!
What rounding to a floating-point number loses: nothing of a whole multiple of a power of two that 53 bits hold, and at
most one part in 2 ^ 53 of any other number of ordinary size.

Results:
- `toRat?_nearest_grid`: a multiple of a power of two by less than 2 ^ 53 is kept;
- `abs_nearest_sub_le`: what is lost of a number that is not smaller than the smallest one with all its bits;
- `toRat?_nearest`: a rounded number is such a multiple itself;
- `sub_value`, `mul_value`, `div_value`: an operation on numbers with values is the exact one, rounded.
-/

namespace AmpArticle

theorem roundHalfEven_intCast (n : Int) : roundHalfEven n = n := roundHalfEven_of_close (by simp)

theorem abs_roundHalfEven_sub_le (q : Rat) : |roundHalfEven q - q| ≤ 1 / 2 := by
  have hup := (le_roundHalfEven_iff (roundHalfEven q) q).1 le_rfl
  have hdown := mt (le_roundHalfEven_iff (roundHalfEven q + 1) q).2 (by omega)
  push_cast at hdown
  rw [not_or] at hdown
  rw [abs_le]
  constructor
  · linarith [hdown.1]
  · rcases hup with h | h <;> linarith

namespace Double

variable {x : Double} {q : Rat}

/-- a number with a value is finite -/
theorem toRat?_eq_some_iff : x.toRat? = some q ↔ x.isFinite = true ∧ x.toRat = q := by
  cases x <;> simp [toRat?, toRat, isFinite]

/-! ## Signs -/

theorem toRat?_nearestMagnitude_neg (q : Rat) :
    (nearestMagnitude true q).toRat? = (nearestMagnitude false q).toRat?.map fun v => -v := by
  rw [nearestMagnitude_eq, nearestMagnitude_eq]
  by_cases hcarry : (roundedMantissa q).toNat = 2 ^ 53
  · rw [if_pos hcarry, if_pos hcarry]
    split <;> rfl
  · rw [if_neg hcarry, if_neg hcarry]
    split <;> rfl

/-- numbers of opposite signs are rounded to numbers of opposite signs -/
theorem toRat?_nearest_neg (hq : 0 < q) (z z' : Bool) :
    (nearest (-q) z).toRat? = (nearest q z').toRat?.map fun v => -v := by
  have hneg : nearest (-q) z = nearestMagnitude true q := by
    rw [nearest, if_neg (neg_ne_zero.2 hq.ne'), abs_eq, abs_neg, abs_of_pos hq, decide_eq_true (neg_neg_of_pos hq)]
  rw [hneg, nearest_of_pos z' hq, toRat?_nearestMagnitude_neg]

/-! ## Numbers on the grid -/

/-- a number of less than 53 bits above a power of two has no bit below that -/
theorem lastExponent_le {e : Int} (hq : 0 < q) (hlt : q < 2 ^ 53 * (2 : Rat) ^ e) (he : minExponent ≤ e) :
    lastExponent q ≤ e := by
  have hbelow : ¬ e + 53 ≤ binaryExponent q := by
    rw [le_binaryExponent_iff hq, zpow_add₀ (two_ne_zero' Rat), not_le, mul_comm]
    exact_mod_cast hlt
  simp only [lastExponent]
  omega

theorem toRat?_nearest_grid_pos {k e : Int} (hk : 0 < k) (hmax : k < 2 ^ 53) (hlow : minExponent ≤ e)
    (hhigh : e ≤ maxExponent) (z : Bool) : (nearest (k * (2 : Rat) ^ e) z).toRat? = some (k * (2 : Rat) ^ e) := by
  have hpos : (0 : Rat) < (2 : Rat) ^ e := by positivity
  have hk' : (0 : Rat) < k := by exact_mod_cast hk
  have hmax' : (k : Rat) ≤ 2 ^ 53 - 1 := by exact_mod_cast Int.le_sub_one_of_lt hmax
  have hq : 0 < k * (2 : Rat) ^ e := by positivity
  have hlast : lastExponent (k * (2 : Rat) ^ e) ≤ e := by
    refine lastExponent_le hq ?_ hlow
    gcongr
    linarith
  have hlimit : k * (2 : Rat) ^ e < limit := by
    have hpow : (2 : Rat) ^ e ≤ (2 : Rat) ^ (971 : Int) := zpow_le_zpow_right₀ (by norm_num) hhigh
    have hlarge : (0 : Rat) < (2 : Rat) ^ (971 : Int) := by positivity
    rw [limit_eq, two_pow_53]
    generalize (2 : Rat) ^ (971 : Int) = p at hpow hlarge
    calc k * (2 : Rat) ^ e ≤ 9007199254740991 * p := by
          gcongr
          linarith
      _ < (9007199254740992 - 1 / 2) * p := by linarith
  -- the scaled number is whole, so its mantissa is exact
  obtain ⟨j, hj⟩ := Int.le.dest hlast
  have hscaled : k * (2 : Rat) ^ e / (2 : Rat) ^ lastExponent (k * (2 : Rat) ^ e) = ((k * 2 ^ j : Int) : Rat) := by
    rw [mul_div_assoc, ← zpow_sub₀ (two_ne_zero' Rat), show e - lastExponent (k * (2 : Rat) ^ e) = (j : Int) by omega]
    push_cast
    rfl
  rw [toRat?_eq_some_iff, nearest_isFinite_iff, abs_of_pos hq, toRat_nearest z hq hlimit, roundedMantissa, hscaled,
    roundHalfEven_intCast, ← hscaled, div_mul_cancel₀ _ (by positivity)]
  exact ⟨hlimit, rfl⟩

/-- a multiple of a power of two by less than 2 ^ 53 -/
def OnGrid (e : Int) (q : Rat) : Prop := ∃ k : Int, |k| < 2 ^ 53 ∧ q = k * (2 : Rat) ^ e

theorem OnGrid.neg {e : Int} (h : OnGrid e q) : OnGrid e (-q) := by
  obtain ⟨k, hk, rfl⟩ := h
  refine ⟨-k, by rwa [abs_neg], ?_⟩
  push_cast
  ring

theorem OnGrid.half {e : Int} (h : OnGrid e q) : OnGrid (e - 1) (q / 2) := by
  obtain ⟨k, hk, rfl⟩ := h
  refine ⟨k, hk, ?_⟩
  rw [zpow_sub_one₀ (two_ne_zero' Rat)]
  ring

/-- what a number on a grid of fractions has beyond a whole number is on the grid when it is not too long for it -/
theorem onGrid_sub_int {m e : Int} (n : Int) (he : e ≤ 0)
    (h : |m * (2 : Rat) ^ e - n| < 2 ^ 53 * (2 : Rat) ^ e) : OnGrid e (m * (2 : Rat) ^ e - n) := by
  have hpos : (0 : Rat) < (2 : Rat) ^ e := by positivity
  obtain ⟨j, hj⟩ := Int.le.dest he
  have hone : (2 : Rat) ^ j * (2 : Rat) ^ e = 1 := by
    rw [← zpow_natCast, ← zpow_add₀ (two_ne_zero' Rat), show (j : Int) + e = 0 by omega, zpow_zero]
  have heq : m * (2 : Rat) ^ e - n = ((m - n * 2 ^ j : Int) : Rat) * (2 : Rat) ^ e := by
    push_cast
    rw [sub_mul, mul_assoc (n : Rat), hone, mul_one]
  refine ⟨m - n * 2 ^ j, ?_, heq⟩
  rw [heq, abs_mul, abs_of_pos hpos, mul_lt_mul_iff_left₀ hpos] at h
  exact_mod_cast h

/-- **Numbers on the grid are kept.** -/
theorem toRat?_nearest_grid {e : Int} (h : OnGrid e q) (hlow : minExponent ≤ e) (hhigh : e ≤ maxExponent)
    (z : Bool) : (nearest q z).toRat? = some q := by
  obtain ⟨k, hk, rfl⟩ := h
  rcases lt_trichotomy k 0 with h | rfl | h
  · have hneg := toRat?_nearest_grid_pos (k := -k) (by omega) (by rwa [abs_of_neg h] at hk) hlow hhigh z
    have hq : (0 : Rat) < ((-k : Int) : Rat) * (2 : Rat) ^ e := by
      have hpos : (0 : Rat) < ((-k : Int) : Rat) := by exact_mod_cast Int.neg_pos_of_neg h
      positivity
    rw [show k * (2 : Rat) ^ e = -(((-k : Int) : Rat) * (2 : Rat) ^ e) by push_cast; ring, toRat?_nearest_neg hq z z,
      hneg]
    rfl
  · cases z <;> simp [nearest, zero, toRat?]
  · exact toRat?_nearest_grid_pos h (by rwa [abs_of_pos h] at hk) hlow hhigh z

/-! ## Numbers beside the grid -/

theorem lt_limit {k : Int} (hk : k ≤ 1023) (h : q ≤ (2 : Rat) ^ k) : q < limit :=
  (h.trans (zpow_le_zpow_right₀ (by norm_num) hk)).trans_lt limit_bounds.1

/-- rounding moves a number by no more than half of the last bit -/
theorem abs_nearest_sub_le_bit (hq : 0 < q) (hlimit : q < limit) (z : Bool) :
    |(nearest q z).toRat - q| ≤ (2 : Rat) ^ lastExponent q / 2 := by
  have hpos : (0 : Rat) < (2 : Rat) ^ lastExponent q := by positivity
  rw [toRat_nearest z hq hlimit]
  calc |roundedMantissa q * (2 : Rat) ^ lastExponent q - q|
      = |roundedMantissa q - q / (2 : Rat) ^ lastExponent q| * (2 : Rat) ^ lastExponent q := by
        rw [← abs_of_pos hpos, ← abs_mul, abs_of_pos hpos, sub_mul, div_mul_cancel₀ _ hpos.ne']
    _ ≤ 1 / 2 * (2 : Rat) ^ lastExponent q := by
        gcongr
        exact abs_roundHalfEven_sub_le (q / (2 : Rat) ^ lastExponent q)
    _ = (2 : Rat) ^ lastExponent q / 2 := by ring

/-- **What rounding loses** of a number that has all its bits. -/
theorem abs_nearest_sub_le (hlow : (2 : Rat) ^ (-1022 : Int) ≤ q) (hlimit : q < limit) (z : Bool) :
    |(nearest q z).toRat - q| ≤ q / 2 ^ 53 := by
  have hq : 0 < q := lt_of_lt_of_le (by positivity) hlow
  have hnormal := (le_binaryExponent_iff hq (-1022)).2 hlow
  have hlast : lastExponent q = binaryExponent q - 52 := by
    simp only [lastExponent, minExponent]
    omega
  have hbit : (2 : Rat) ^ lastExponent q ≤ q / 2 ^ 52 := by
    rw [hlast, zpow_sub₀ (two_ne_zero' Rat)]
    have hlower := (binaryExponent_spec hq).1
    norm_num at hlower ⊢
    linarith
  have hmoved := abs_nearest_sub_le_bit hq hlimit z
  linarith

/-- what rounding gives is a number on the grid -/
theorem toRat?_nearest (hq : 0 < q) (hlimit : q < limit) (z : Bool) :
    (nearest q z).toRat? = some (roundedMantissa q * (2 : Rat) ^ lastExponent q) :=
  toRat?_eq_some_iff.2 ⟨by rwa [nearest_isFinite_iff, abs_of_pos hq], toRat_nearest z hq hlimit⟩

/-! ## Operations

Each is the exact one, rounded; the sign that a zero has makes no difference to its value. -/

section Operations

variable {y : Double} {p : Rat}

theorem neg_value (hx : x.toRat? = some p) : x.neg.toRat? = some (-p) := by
  cases x with
  | nan => cases hx
  | infinity negative => cases hx
  | finite negative m e =>
    cases hx
    cases negative <;> simp [neg, toRat?]

theorem sub_value (hx : x.toRat? = some p) (hy : y.toRat? = some q) : ∃ z, x.sub y = nearest (p - q) z := by
  obtain ⟨hxfinite, rfl⟩ := toRat?_eq_some_iff.1 hx
  obtain ⟨hyfinite, hynegated⟩ := toRat?_eq_some_iff.1 (neg_value hy)
  rw [sub, sub_eq_add_neg, ← hynegated]
  cases x <;> cases hxfinite
  cases hneg : y.neg <;> rw [hneg] at hyfinite <;> cases hyfinite
  exact ⟨_, rfl⟩

theorem mul_value (hx : x.toRat? = some p) (hy : y.toRat? = some q) : ∃ z, x.mul y = nearest (p * q) z := by
  obtain ⟨hxfinite, rfl⟩ := toRat?_eq_some_iff.1 hx
  obtain ⟨hyfinite, rfl⟩ := toRat?_eq_some_iff.1 hy
  cases x <;> cases hxfinite
  cases y <;> cases hyfinite
  exact ⟨_, rfl⟩

theorem div_value (hx : x.toRat? = some p) (hy : y.toRat? = some q) : ∃ z, x.div y = nearest (p / q) z := by
  obtain ⟨hxfinite, rfl⟩ := toRat?_eq_some_iff.1 hx
  obtain ⟨hyfinite, rfl⟩ := toRat?_eq_some_iff.1 hy
  cases x <;> cases hxfinite
  cases y <;> cases hyfinite
  exact ⟨_, rfl⟩

theorem toNearestInt_value (hx : x.toRat? = some p) : x.toNearestInt = .ok (roundHalfEven p) := by
  obtain ⟨hfinite, rfl⟩ := toRat?_eq_some_iff.1 hx
  cases x <;> cases hfinite
  rfl

theorem toTruncatedInt_value (hx : x.toRat? = some p) : x.toTruncatedInt = .ok (truncate p) := by
  obtain ⟨hfinite, rfl⟩ := toRat?_eq_some_iff.1 hx
  cases x <;> cases hfinite
  rfl

theorem ofInt_value {n : Int} (hn : |n| < 2 ^ 53) : (ofInt n).toRat? = some n := by
  exact toRat?_nearest_grid ⟨n, hn, by simp⟩ (by decide : minExponent ≤ 0) (by decide) false

theorem toDouble_value {n : Int} (hn : |n| < 2 ^ 53) :
    ∃ x, (Quantity.int n).toDouble = .ok x ∧ x.toRat? = some n := by
  have hvalue := ofInt_value hn
  refine ⟨ofInt n, ?_, hvalue⟩
  rw [Quantity.toDouble]
  cases hx : ofInt n with
  | finite negative m e => rfl
  | nan => rfl
  | infinity negative =>
    rw [hx] at hvalue
    cases hvalue

theorem div_int {a b : Int} (hb : b ≠ 0) (h : |(a : Rat) / b| < limit) :
    ∃ z, (Quantity.int a).div (.int b) = .ok (nearest (a / b) z) := by
  have hfinite := (nearest_isFinite_iff ((a : Rat) / b) ((a < 0) != (b < 0))).2 h
  refine ⟨(a < 0) != (b < 0), ?_⟩
  rw [Quantity.div, Quantity.divInt, if_neg hb]
  cases hx : nearest ((a : Rat) / b) ((a < 0) != (b < 0)) with
  | finite negative m e => rfl
  | nan => rfl
  | infinity negative =>
    rw [hx] at hfinite
    cases hfinite

end Operations

end Double

end AmpArticle
