import AmpArticle.Css.Logo
import AmpArticle.Proofs.Number.Rounding
import AmpArticle.Proofs.Results

/-!
Quantities that can be read, scaled and divided. Only whole numbers beyond the floating-point numbers cannot be read,
and what cannot be scaled to a whole number is infinite or no number.

Results:
- `toDouble_int`, `tooLarge_of_digits`: the whole numbers that cannot be read;
- `scaledSide_ok_iff`: the lengths that can be scaled;
- `div_int_ok`, `div_real_ok`: the divisions that have a result.
-/

namespace AmpArticle.Css

/-- a whole number beyond the floating-point numbers -/
def TooLarge : Json → Prop
  | .int n => Double.limit ≤ |(n : Rat)|
  | _ => False

theorem limit_gt {n : Int} (h : n.natAbs ≤ 1000) : |(n : Rat)| < Double.limit := by
  have hn : |(n : Rat)| ≤ 1000 := by
    have habs : |n| ≤ 1000 := abs_le.2 (by omega)
    exact_mod_cast habs
  have hpow : (2 : Rat) ^ (10 : Int) ≤ (2 : Rat) ^ (1023 : Int) := zpow_le_zpow_right₀ (by norm_num) (by norm_num)
  have hten : (2 : Rat) ^ (10 : Int) = 1024 := by norm_num
  rw [hten] at hpow
  have hlimit := Double.limit_bounds.1
  generalize (2 : Rat) ^ (1023 : Int) = x at hpow hlimit
  linarith

theorem toDouble_int (n : Int) : (Quantity.int n).toDouble =
    if Double.limit ≤ |(n : Rat)| then .error .intTooLarge else .ok (Double.ofInt n) := by
  have hfinite := Double.ofInt_isFinite_iff n
  cases hx : Double.ofInt n with
  | nan => exact absurd hx (Double.nearest_ne_nan _ _)
  | infinity negative =>
    rw [hx] at hfinite
    rw [if_pos (not_lt.1 (mt hfinite.2 (by simp [Double.isFinite])))]
    simp only [Quantity.toDouble, hx]
  | finite negative m e =>
    rw [hx] at hfinite
    rw [if_neg (not_le.2 (hfinite.1 rfl))]
    simp only [Quantity.toDouble, hx]

/-- a whole number that is too long to be written is too large for a floating-point number -/
theorem tooLarge_of_digits {n : Int} (h : Json.isOverlong n = true) : TooLarge (.int n) := by
  rw [Json.isOverlong, decide_eq_true_eq] at h
  have habs {k : Nat} (hk : k ≤ Json.maxIntDigits) : (2 : Rat) ^ (k : Int) ≤ |(n : Rat)| := by
    generalize Json.maxIntDigits = digits at h hk
    have hpow : 2 ^ k ≤ n.natAbs :=
      ((Nat.pow_le_pow_left (by decide) k).trans (Nat.pow_le_pow_right (by decide) hk)).trans h
    rw [← Int.cast_abs, Int.abs_eq_natAbs]
    exact_mod_cast hpow
  exact Double.limit_bounds.2.le.trans (habs (k := 1024) (by decide))

/-- the value of a quantity -/
def quantityValue : Quantity → Double
  | .int n => Double.ofInt n
  | .real x => x

theorem toNearestInt_ok_iff (x : Double) : (∃ n, x.toNearestInt = .ok n) ↔ x.isFinite = true := by
  cases x with
  | nan => simp [Double.toNearestInt, Double.isFinite]
  | infinity negative => simp [Double.toNearestInt, Double.isFinite]
  | finite negative m e => simp [Double.toNearestInt, Double.isFinite]

theorem mul_not_finite {x : Double} (h : x.isFinite = false) (y : Double) : (x.mul y).isFinite = false := by
  cases x with
  | nan => rfl
  | infinity negative =>
    cases y with
    | nan => rfl
    | infinity negative' => rfl
    | finite negative' m e =>
      simp only [Double.mul]
      split_ifs
      · rfl
      · rfl
  | finite negative m e => cases h

theorem scaledSide_ok_iff (q : Quantity) (x : Double) :
    (∃ n, (q.scale x >>= Double.toNearestInt) = .ok n) ↔ ((quantityValue q).mul x).isFinite = true := by
  cases q with
  | real y => exact toNearestInt_ok_iff _
  | int n =>
    rw [Quantity.scale, toDouble_int]
    split_ifs with hlarge
    · have hinfinite : (Double.ofInt n).isFinite = false := by
        rw [← Bool.not_eq_true, Double.ofInt_isFinite_iff]
        exact not_lt.2 hlarge
      rw [quantityValue, mul_not_finite hinfinite]
      exact iff_of_false (by rintro ⟨m, hm⟩; cases hm) (by simp)
    · exact toNearestInt_ok_iff _

/-- the lengths of the bar can be divided by every whole number but zero -/
theorem div_int_ok {a b : Int} (ha : a.natAbs ≤ 1000) (hb : b ≠ 0) : ∃ x, (Quantity.int a).div (.int b) = .ok x := by
  have hsmall : |(a : Rat) / (b : Rat)| < Double.limit := by
    have hone : (1 : Rat) ≤ |(b : Rat)| := by exact_mod_cast Int.one_le_abs hb
    calc |(a : Rat) / (b : Rat)| = |(a : Rat)| / |(b : Rat)| := abs_div _ _
      _ ≤ |(a : Rat)| := div_le_self (abs_nonneg _) hone
      _ < Double.limit := limit_gt ha
  have hfinite := (Double.nearest_isFinite_iff _ ((a < 0) != (b < 0))).2 hsmall
  simp only [Quantity.div, Quantity.divInt, if_neg hb]
  split
  · rename_i negative hinfinite
    rw [hinfinite] at hfinite
    cases hfinite
  · exact ⟨_, rfl⟩

theorem div_real_ok {a : Int} (ha : a.natAbs ≤ 1000) {y : Double} (hy : y.isZero = false) :
    ∃ x, (Quantity.int a).div (.real y) = .ok x := by
  have hint : (Quantity.int a).toDouble = .ok (Double.ofInt a) := by
    rw [toDouble_int, if_neg (not_le.2 (limit_gt ha))]
  refine ⟨(Double.ofInt a).div y, bind_ok_iff.2 ⟨_, hint, bind_ok_iff.2 ⟨y, rfl, ?_⟩⟩⟩
  rw [hy]
  rfl

end AmpArticle.Css
