import AmpArticle.Proofs.Media.Fitting
import AmpArticle.Proofs.Number.Exact

/-!
A picture over a box. Its factor is the larger of the two that stretch a side to that of the box, each side is stretched
by it and rounded, and half of what is beyond the box goes to either end. Every step rounds to a floating-point number;
for sides of up to 2 ^ 24 pixels this loses less than half a pixel before the sides themselves are rounded, and what a
side has beyond the box is exact.

Results:
- `spans_of_excess`: a side that is rounded, and moved by half of what it has beyond the box;
- `stretched_spans`: the same of a side that is stretched by a factor large enough for its target;
- `cover_spans`: a picture that covers a box leaves no gap, is no larger than it has to be and stands in the middle.
-/

namespace AmpArticle.Media

open Double (limit minExponent maxExponent)

/-! ## Half of the excess -/

/-- a side of a picture over a side of a box: no gap at either end, and in the middle to within rounding -/
structure Spans (length offset target : Int) : Prop where
  long : target ≤ length
  start : offset ≤ 0
  finish : target ≤ offset + length
  middle : 0 ≤ 2 * offset + length - target ∧ 2 * offset + length - target ≤ 2

theorem floor_bounds (q : Rat) : (q.floor : Rat) ≤ q ∧ q < q.floor + 1 :=
  ⟨Rat.floor_le q, by exact_mod_cast Rat.lt_floor_add_one q⟩

/-- **A side is rounded and moved** by half of what it has beyond the box, toward zero. -/
theorem spans_of_excess {length : Rat} {target : Int} (h : target - 1 / 2 < length) :
    Spans (roundHalfEven length) (truncate (-(length - target) / 2)) target := by
  have hnear := abs_le.1 (abs_roundHalfEven_sub_le length)
  have hlong : target ≤ roundHalfEven length := (le_roundHalfEven_iff _ _).2 (.inl h)
  unfold truncate
  split
  · -- beyond the box by an excess of which `k` pixels go to either end
    rename_i hexcess
    obtain ⟨hlow, hhigh⟩ := floor_bounds (-(-(length - target) / 2))
    generalize (-(-(length - target) / 2)).floor = k at hlow hhigh
    have hk : (-1 : Int) < k := by
      have hcast : (-1 : Rat) < k := by linarith
      exact_mod_cast hcast
    have hleast : target + 2 * k ≤ roundHalfEven length := by
      refine (le_roundHalfEven_iff _ _).2 (.inl ?_)
      push_cast
      linarith
    have hmost : roundHalfEven length < target + 2 * k + 3 := by
      have hcast : (roundHalfEven length : Rat) < target + 2 * k + 3 := by linarith
      exact_mod_cast hcast
    exact ⟨hlong, by omega, by omega, by omega, by omega⟩
  · -- short of the box by less than half a pixel: nothing is moved
    rename_i hexcess
    obtain ⟨hlow, hhigh⟩ := floor_bounds (-(length - target) / 2)
    generalize (-(length - target) / 2).floor = k at hlow hhigh
    have hk : -1 < k ∧ k < 1 := by
      have hcast : (-1 : Rat) < k ∧ (k : Rat) < 1 := ⟨by linarith, by linarith⟩
      exact_mod_cast hcast
    have hmost : roundHalfEven length < target + 1 := by
      have hcast : (roundHalfEven length : Rat) < target + 1 := by linarith
      exact_mod_cast hcast
    exact ⟨hlong, by omega, by omega, by omega, by omega⟩

/-! ## Stretching a side -/

/-- lengths in pixels for which rounding does not matter -/
def IsSide (n : Int) : Prop := 1 ≤ n ∧ n ≤ 2 ^ 24

instance (n : Int) : Decidable (IsSide n) := inferInstanceAs (Decidable (_ ∧ _))

variable {n t : Int} {x : Double} {q : Rat}

theorem IsSide.toDouble (hn : IsSide n) : ∃ x, (Quantity.int n).toDouble = .ok x ∧ x.toRat? = some n := by
  obtain ⟨hlow, hhigh⟩ := hn
  exact Double.toDouble_value (by rw [abs_of_pos (by omega)]; omega)

theorem IsSide.cast (hn : IsSide n) : (1 : Rat) ≤ n ∧ (n : Rat) ≤ 2 ^ 24 := by
  obtain ⟨hlow, hhigh⟩ := hn
  exact ⟨by exact_mod_cast hlow, by exact_mod_cast hhigh⟩

/-- the factor that stretches a side to a target -/
theorem factor_value (hn : IsSide n) (ht : IsSide t) : ∃ x q, (Quantity.int t).div (.int n) = .ok x ∧
    x.toRat? = some q ∧ |q - t / n| ≤ t / n / 2 ^ 53 ∧ (t : Rat) / n ≤ 2 ^ 24 := by
  obtain ⟨hn1, hn2⟩ := hn.cast
  obtain ⟨ht1, ht2⟩ := ht.cast
  have hlow : (2 : Rat) ^ (-24 : Int) ≤ t / n := by
    rw [le_div_iff₀ (by linarith)]
    norm_num at hn2 ⊢
    linarith
  have hhigh : (t : Rat) / n ≤ (2 : Rat) ^ (24 : Int) := by
    rw [div_le_iff₀ (by linarith)]
    norm_num at ht2 ⊢
    linarith
  have hlimit := Double.lt_limit (by norm_num) hhigh
  have hpos : (0 : Rat) < t / n := lt_of_lt_of_le (by positivity) hlow
  have hnormal : (2 : Rat) ^ (-1022 : Int) ≤ t / n := (zpow_le_zpow_right₀ (by norm_num) (by norm_num)).trans hlow
  have hzero : n ≠ 0 := by have := hn.1; omega
  obtain ⟨z, hdiv⟩ := Double.div_int hzero (by rwa [abs_of_pos hpos])
  refine ⟨_, _, hdiv, Double.toRat?_nearest hpos hlimit z, ?_, by exact_mod_cast hhigh⟩
  rw [← Double.toRat_nearest z hpos hlimit]
  exact Double.abs_nearest_sub_le hnormal hlimit z

/-- half of what a length has beyond a target, when the length is on a grid of fractions and not much shorter -/
theorem centring_value {y : Double} {m e : Int} (ht : IsSide t) (hy : y.toRat? = some (m * (2 : Rat) ^ e))
    (hm : m ≤ 2 ^ 53) (he : minExponent < e) (he' : e ≤ 0) (hnear : t < 2 * (m * (2 : Rat) ^ e)) :
    centring y (.int t) = .ok (truncate (-(m * (2 : Rat) ^ e - t) / 2)) := by
  have hpos : (0 : Rat) < (2 : Rat) ^ e := by positivity
  have hm' : (m : Rat) ≤ 2 ^ 53 := by exact_mod_cast hm
  have hlong : m * (2 : Rat) ^ e ≤ 2 ^ 53 * (2 : Rat) ^ e := by gcongr
  have hgrid : Double.OnGrid e (m * (2 : Rat) ^ e - t) := by
    refine Double.onGrid_sub_int t he' (abs_lt.2 ⟨?_, ?_⟩)
    · linarith [ht.cast.1]
    · linarith [ht.cast.1]
  have hhigh : e ≤ maxExponent := he'.trans (by decide)
  obtain ⟨target, htarget, htvalue⟩ := ht.toDouble
  obtain ⟨z, hsub⟩ := Double.sub_value hy htvalue
  have hexcess := Double.neg_value (hsub ▸ Double.toRat?_nearest_grid hgrid he.le hhigh z)
  have htwo : Double.two.toRat? = some (2 : Int) := Double.ofInt_value (by norm_num)
  obtain ⟨z', hhalf⟩ := Double.div_value hexcess htwo
  have hhalved := Double.toRat?_nearest_grid hgrid.neg.half (by omega) (by omega) z'
  rw [centring, htarget]
  show ((y.sub target).neg.div Double.two).toTruncatedInt = _
  rw [hhalf]
  exact Double.toTruncatedInt_value hhalved

/-- a side that is scaled: its length is on a grid of fractions, as the product is below 2 ^ 49, and close to it -/
theorem scale_value (hn : IsSide n) (hx : x.toRat? = some q) (hlow : (2 : Rat) ^ (-1 : Int) ≤ n * q)
    (hhigh : n * q ≤ (2 : Rat) ^ (49 : Int)) : ∃ y, ∃ m e : Int, (Quantity.int n).scale x = .ok y ∧
      y.toRat? = some (m * (2 : Rat) ^ e) ∧ m ≤ 2 ^ 53 ∧ minExponent < e ∧ e ≤ 0 ∧
      |m * (2 : Rat) ^ e - n * q| ≤ n * q / 2 ^ 53 := by
  have hpos : 0 < n * q := lt_of_lt_of_le (by positivity) hlow
  have hlimit := Double.lt_limit (by norm_num) hhigh
  obtain ⟨side, hside, hsvalue⟩ := hn.toDouble
  obtain ⟨z, hproduct⟩ := Double.mul_value hsvalue hx
  have hscale : (Quantity.int n).scale x = .ok (Double.nearest (n * q) z) := by
    rw [Quantity.scale, hside, ← hproduct]
    rfl
  have herror := Double.abs_nearest_sub_le ((zpow_le_zpow_right₀ (by norm_num) (by norm_num)).trans hlow) hlimit z
  rw [Double.toRat_nearest z hpos hlimit] at herror
  obtain ⟨-, hmantissa⟩ := Double.roundedMantissa_bounds hpos
  have hexponent : minExponent < Double.lastExponent (n * q) ∧ Double.lastExponent (n * q) ≤ 0 := by
    have hbelow : ¬ 50 ≤ binaryExponent (n * q) := by
      rw [le_binaryExponent_iff hpos, not_le]
      exact hhigh.trans_lt (zpow_lt_zpow_right₀ (by norm_num) (by norm_num))
    have habove := (le_binaryExponent_iff hpos (-1)).2 hlow
    simp only [Double.lastExponent, minExponent]
    omega
  exact ⟨_, _, _, hscale, Double.toRat?_nearest hpos hlimit z, hmantissa, hexponent.1, hexponent.2, herror⟩

/-- **A side that is stretched** by a factor that is at least its own, as that is rounded: it spans its target. If the
factor is its own it has the length of the target. -/
theorem stretched_spans (hn : IsSide n) (ht : IsSide t) (hx : x.toRat? = some q) (hleast : t / n - t / n / 2 ^ 53 ≤ q)
    (hmost : q ≤ 2 ^ 25) : ∃ y length offset, (Quantity.int n).scale x = .ok y ∧ y.toNearestInt = .ok length ∧
      centring y (.int t) = .ok offset ∧ Spans length offset t ∧ (q ≤ t / n + t / n / 2 ^ 53 → length = t) := by
  obtain ⟨hn1, hn2⟩ := hn.cast
  obtain ⟨ht1, ht2⟩ := ht.cast
  have hn0 : (0 : Rat) < n := by linarith
  have hleast' : t - t / 2 ^ 53 ≤ n * q := by
    calc (t : Rat) - t / 2 ^ 53 = n * (t / n - t / n / 2 ^ 53) := by field_simp
      _ ≤ n * q := by gcongr
  have hlow : (2 : Rat) ^ (-1 : Int) ≤ n * q := by
    norm_num at hleast' ⊢
    linarith
  have hfactor : 0 < q := (pos_iff_pos_of_mul_pos (lt_of_lt_of_le (by positivity) hlow)).1 hn0
  have hhigh : n * q ≤ (2 : Rat) ^ (49 : Int) := by
    calc n * q ≤ 2 ^ 24 * 2 ^ 25 := by gcongr
      _ = (2 : Rat) ^ (49 : Int) := by norm_num
  obtain ⟨y, m, e, hscale, hvalue, hm, he, he', herror⟩ := scale_value hn hx hlow hhigh
  obtain ⟨herrorLow, herrorHigh⟩ := abs_le.1 herror
  have hlong : t - 1 / 2 < m * (2 : Rat) ^ e := by
    norm_num at hleast' herrorLow ⊢
    linarith
  refine ⟨y, _, _, hscale, Double.toNearestInt_value hvalue, ?_, spans_of_excess hlong, fun hown => ?_⟩
  · exact centring_value ht hvalue hm he he' (by linarith)
  · have hown' : n * q ≤ t + t / 2 ^ 53 := by
      calc n * q ≤ n * (t / n + t / n / 2 ^ 53) := by gcongr
        _ = t + t / 2 ^ 53 := by field_simp
    refine roundHalfEven_of_close (abs_lt.2 ⟨by linarith, ?_⟩)
    norm_num at hown' herrorHigh ⊢
    linarith

/-! ## Covering a box -/

/-- **A picture that covers a box**, with sides of both up to 2 ^ 24 pixels: it spans the box in both directions, and
has the length of the box in one of them. -/
theorem cover_spans {w h tw th : Int} (hw : IsSide w) (hh : IsSide h) (htw : IsSide tw) (hth : IsSide th) :
    ∃ view, cover (.int w) (.int h) (.int tw) (.int th) = .ok view ∧ Spans view.width view.x tw ∧
      Spans view.height view.y th ∧ (view.width = tw ∨ view.height = th) := by
  obtain ⟨x, p, hx, hxvalue, hxnear, hxmost⟩ := factor_value hw htw
  obtain ⟨y, q, hy, hyvalue, hynear, hymost⟩ := factor_value hh hth
  obtain ⟨hxlow, hxhigh⟩ := abs_le.1 hxnear
  obtain ⟨hylow, hyhigh⟩ := abs_le.1 hynear
  -- the larger factor stretches its own side to its target, and the other side beyond it
  have hlarger : ∃ r, (Double.larger x y).toRat? = some r ∧ p ≤ r ∧ q ≤ r ∧ (r = p ∨ r = q) := by
    obtain ⟨hxfinite, hxrat⟩ := Double.toRat?_eq_some_iff.1 hxvalue
    obtain ⟨hyfinite, hyrat⟩ := Double.toRat?_eq_some_iff.1 hyvalue
    obtain ⟨hlx, hly⟩ := Double.le_larger hxfinite hyfinite
    rw [hxrat] at hlx
    rw [hyrat] at hly
    unfold Double.larger at hlx hly ⊢
    split at hlx
    · rename_i hlt
      rw [if_pos hlt] at hly ⊢
      exact ⟨q, hyvalue, hyrat ▸ hlx, le_rfl, .inr rfl⟩
    · rename_i hlt
      rw [if_neg hlt] at hly ⊢
      exact ⟨p, hxvalue, le_rfl, hxrat ▸ hly, .inl rfl⟩
  obtain ⟨r, hr, hpr, hqr, hown⟩ := hlarger
  have hmost : r ≤ 2 ^ 25 := by
    norm_num at hxmost hymost hxhigh hyhigh ⊢
    rcases hown with rfl | rfl <;> linarith
  obtain ⟨sw, width, offsetX, hsw, hwidth, hx', hspansX, hfitX⟩ := stretched_spans hw htw hr (by linarith) hmost
  obtain ⟨sh, height, offsetY, hsh, hheight, hy', hspansY, hfitY⟩ := stretched_spans hh hth hr (by linarith) hmost
  refine ⟨⟨width, height, offsetX, offsetY⟩, ?_, hspansX, hspansY, ?_⟩
  · simp only [cover, hx, hy, hsw, hsh, hwidth, hheight, hx', hy', bind, Except.bind, pure, Except.pure]
  · rcases hown with rfl | rfl
    · exact .inl (hfitX (by linarith))
    · exact .inr (hfitY (by linarith))

/-- a wide picture over the usual box -/
theorem cover_spans_wide : (IsSide 800 ∧ IsSide 454 ∧ IsSide 380 ∧ IsSide 240) ∧
    cover (.int 800) (.int 454) (.int 380) (.int 240) = .ok ⟨423, 240, -21, 0⟩ ∧ Spans 423 (-21) 380 ∧
      Spans 240 0 240 := by
  obtain ⟨hw, hh, htw, hth⟩ : IsSide 800 ∧ IsSide 454 ∧ IsSide 380 ∧ IsSide 240 := by decide
  obtain ⟨view, hview, hspansX, hspansY, -⟩ := cover_spans hw hh htw hth
  have hrun : (cover (.int 800) (.int 454) (.int 380) (.int 240)).toOption = some ⟨423, 240, -21, 0⟩ := by
    decide +kernel
  rw [hview] at hrun
  obtain rfl := Option.some.inj hrun
  exact ⟨⟨hw, hh, htw, hth⟩, hview, hspansX, hspansY⟩

end AmpArticle.Media
