import AmpArticle.Media.Geometry
import AmpArticle.Proofs.Number.Twice
import AmpArticle.Proofs.Results

/-!
Sizes of fitted pictures. A picture that covers a box cannot vanish: each side is at least about as long as that of the
box. A picture that takes the width of a box can: when it is very flat, its height is rounded to zero.

Results:
- `cover_positive`: a picture that covers a box has positive sides;
- `scaledHeight_positive_iff`: when the height in proportion to a width is positive;
- `scaledHeight_isNearest`: it is the exact proportion, rounded once, unless the sides are very long.
-/

namespace AmpArticle.Media

open Double (nearest limit)

/-! ## Quotients and products of whole numbers -/

theorem nearest_isFinite {q : Rat} {negativeZero : Bool} (h : ∀ negative, nearest q negativeZero ≠ .infinity negative) :
    (nearest q negativeZero).isFinite = true := by
  cases hx : nearest q negativeZero with
  | nan => exact absurd hx (Double.nearest_ne_nan _ _)
  | infinity negative => exact absurd hx (h negative)
  | finite negative m e => rfl

theorem divInt_ok {a b : Int} {x : Double} (h : Quantity.divInt a b = .ok x) :
    b ≠ 0 ∧ x.isFinite = true ∧ x = nearest ((a : Rat) / b) ((a < 0) != (b < 0)) := by
  unfold Quantity.divInt at h
  split at h
  · cases h
  · rename_i hb
    refine ⟨hb, ?_⟩
    split at h
    · cases h
    · rename_i hfinite
      rw [← Except.ok.inj h]
      exact ⟨nearest_isFinite hfinite, rfl⟩

theorem toDouble_int_ok {n : Int} {x : Double} (h : (Quantity.int n).toDouble = .ok x) :
    x.isFinite = true ∧ x = nearest n false := by
  unfold Quantity.toDouble at h
  dsimp only at h
  split at h
  · cases h
  · rename_i hfinite
    rw [← Except.ok.inj h]
    exact ⟨nearest_isFinite hfinite, rfl⟩

/-- no rounded quotient or product of whole numbers is near the smallest numbers -/
theorem smallest_le_one : (2 : Rat) ^ Double.minExponent ≤ 1 := zpow_le_one_of_nonpos₀ (by norm_num) (by decide)

theorem toNearestInt_isFinite {x : Double} {n : Int} (h : x.toNearestInt = .ok n) : x.isFinite = true := by
  cases x <;> first | rfl | cases h

/-! ## Covering a box -/

variable {n w h m : Int}

/-- rounding takes no more than half of the factor that stretches a side to a length -/
theorem factor_le {t : Int} {x : Double} (hn : 0 < n) (ht : 0 < t) (hsmall : (n : Rat) < limit)
    (hx : (Quantity.int t).div (.int n) = .ok x) : (t : Rat) / n / 2 ≤ x.toRat := by
  obtain ⟨-, hfinite, hx⟩ := divInt_ok hx
  have hn' : (0 : Rat) < n := by exact_mod_cast hn
  have ht' : (1 : Rat) ≤ t := by exact_mod_cast ht
  have hquotient : 0 < (t : Rat) / n := by positivity
  rw [hx, Double.nearest_isFinite_iff, abs_of_pos hquotient] at hfinite
  rw [hx]
  refine Double.half_le_nearest _ ?_ hfinite
  calc (2 : Rat) ^ Double.minExponent ≤ (2 : Rat) ^ (-1024 : Int) := zpow_le_zpow_right₀ (by norm_num) (by decide)
    _ = 1 / (2 : Rat) ^ (1024 : Int) := by rw [zpow_neg, one_div]
    _ ≤ 1 / n := one_div_le_one_div_of_le hn' (hsmall.trans Double.limit_bounds.2).le
    _ ≤ t / n := by gcongr

/-- a side is stretched to about the length that its factor is for, or more -/
theorem stretched_positive {t : Int} {x : Double} (hn : 0 < n) (ht : 4 < t) (hx : (t : Rat) / n / 2 ≤ x.toRat)
    {y : Double} (hy : (Quantity.int n).scale x = .ok y) (hm : y.toNearestInt = .ok m) : 1 ≤ m := by
  obtain ⟨z, hz, hend⟩ := bind_ok_iff.1 hy
  obtain rfl := pure_ok_iff.1 hend
  have hfinite := toNearestInt_isFinite hm
  obtain ⟨-, -, negative, hproduct⟩ := Double.mul_of_isFinite hfinite
  obtain ⟨hzfinite, hz⟩ := toDouble_int_ok hz
  have hn' : (1 : Rat) ≤ n := by exact_mod_cast hn
  have ht' : (4 : Rat) < t := by exact_mod_cast ht
  rw [hz, Double.nearest_isFinite_iff, abs_of_pos (by linarith)] at hzfinite
  have hside : (n : Rat) / 2 ≤ z.toRat := by
    rw [hz]
    exact Double.half_le_nearest _ (smallest_le_one.trans hn') hzfinite
  have hpositive : 0 ≤ z.toRat := by linarith
  have hlong : (t : Rat) / 4 ≤ z.toRat * x.toRat := by
    calc (t : Rat) / 4 = n / 2 * (t / n / 2) := by
          field_simp
          norm_num
      _ ≤ z.toRat * x.toRat := by gcongr
  have hone : 1 ≤ z.toRat * x.toRat := by linarith
  rw [hproduct, Double.nearest_isFinite_iff, abs_of_pos (by linarith)] at hfinite
  have hhalf := Double.half_le_nearest negative (smallest_le_one.trans hone) hfinite
  rw [Double.one_le_toNearestInt_iff hm, hproduct]
  linarith

theorem scale_int_small {x y : Double} (h : (Quantity.int n).scale x = .ok y) : (n : Rat) < limit := by
  obtain ⟨z, hz, -⟩ := bind_ok_iff.1 h
  obtain ⟨hfinite, hz⟩ := toDouble_int_ok hz
  rw [hz, Double.nearest_isFinite_iff] at hfinite
  exact (le_abs_self _).trans_lt hfinite

/-- **A picture that covers a box** has positive sides, whatever its own sides are. -/
theorem cover_positive {tw th : Int} {view : Viewport} (hw : 0 < w) (hh : 0 < h) (htw : 4 < tw) (hth : 4 < th)
    (hview : cover (.int w) (.int h) (.int tw) (.int th) = .ok view) : 1 ≤ view.width ∧ 1 ≤ view.height := by
  obtain ⟨x, hx, hview⟩ := bind_ok_iff.1 hview
  obtain ⟨y, hy, hview⟩ := bind_ok_iff.1 hview
  obtain ⟨sw, hsw, hview⟩ := bind_ok_iff.1 hview
  obtain ⟨sh, hsh, hview⟩ := bind_ok_iff.1 hview
  obtain ⟨width, hwidth, hview⟩ := bind_ok_iff.1 hview
  obtain ⟨height, hheight, hview⟩ := bind_ok_iff.1 hview
  obtain ⟨_, -, hview⟩ := bind_ok_iff.1 hview
  obtain ⟨_, -, hview⟩ := bind_ok_iff.1 hview
  obtain rfl := pure_ok_iff.1 hview
  obtain ⟨hlx, hly⟩ := Double.le_larger (divInt_ok hx).2.1 (divInt_ok hy).2.1
  have hfx := factor_le hw (by omega) (scale_int_small hsw) hx
  have hfy := factor_le hh (by omega) (scale_int_small hsh) hy
  exact ⟨stretched_positive hw htw (hfx.trans hlx) hsw hwidth, stretched_positive hh hth (hfy.trans hly) hsh hheight⟩

/-! ## Taking the width of a box -/

/-- **When the height in proportion to a width is positive.** A half is rounded to zero, and so is what the division
rounds to a half. -/
theorem scaledHeight_positive_iff {t : Int} (hw : 0 < w) (hh : 0 < h) (ht : 0 < t)
    (hm : scaledHeight (.int w) (.int h) (.int t) = .ok m) :
    1 ≤ m ↔ (1 : Rat) / 2 + 1 / 2 ^ 54 < h * t / w := by
  obtain ⟨_, hproduct, hm⟩ := bind_ok_iff.1 hm
  obtain rfl := Except.ok.inj hproduct
  obtain ⟨x, hx, hm⟩ := bind_ok_iff.1 hm
  obtain ⟨-, hfinite, hx⟩ := divInt_ok hx
  have hw' : (0 : Rat) < w := by exact_mod_cast hw
  have hh' : (0 : Rat) < h := by exact_mod_cast hh
  have ht' : (0 : Rat) < t := by exact_mod_cast ht
  have hquotient : 0 < (h * t : Rat) / w := by positivity
  rw [Int.cast_mul] at hx
  rw [hx, Double.nearest_isFinite_iff, abs_of_pos hquotient] at hfinite
  rw [Double.one_le_toNearestInt_iff hm, hx, Double.half_lt_nearest_iff _ hquotient hfinite]

/-- **The height in proportion to a width** is there, and it is the whole number nearest to the exact proportion. -/
theorem scaledHeight_isNearest {t : Int} (hw : 0 < w) (hh : 0 < h) (ht : 0 < t) (hsmall : h * t < 2 ^ 52) :
    ∃ n, scaledHeight (.int w) (.int h) (.int t) = .ok n ∧ IsNearest n (h * t / w) := by
  have hproduct : 0 < h * t := Int.mul_pos hh ht
  have hlimit := quotient_lt_limit hproduct hw hsmall
  have hquotient : 0 < ((h * t : Int) : Rat) / w := div_pos (by exact_mod_cast hproduct) (by exact_mod_cast hw)
  obtain ⟨z, hdiv⟩ := Double.div_int hw.ne' ((abs_of_pos hquotient).trans_lt hlimit)
  have hfinite := (Double.nearest_isFinite_iff _ z).2 ((abs_of_pos hquotient).trans_lt hlimit)
  have hround := Double.toNearestInt_value (Double.toRat?_eq_some_iff.2 ⟨hfinite, rfl⟩)
  refine ⟨_, bind_ok_iff.2 ⟨_, rfl, bind_ok_iff.2 ⟨_, hdiv, hround⟩⟩, isNearest_iff.2 ?_⟩
  rw [roundHalfEven_nearest_div hproduct hw hsmall, Int.cast_mul]

end AmpArticle.Media
