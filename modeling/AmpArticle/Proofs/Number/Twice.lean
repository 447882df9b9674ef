import AmpArticle.Proofs.Number.Exact

/-!
Rounding twice: a quotient of whole numbers to a floating-point number, and that to a whole number. In general this is
not the same as rounding once, because the first rounding may come to a half from one side of it. With a dividend of
less than 2 ^ 52 it cannot. The quotient is either a half, which is kept, or it differs from every half by at least one
part in twice the divisor, and the first rounding moves it by less.

Results:
- `isNearest_iff`: rounding to the nearest whole number, by the distance;
- `roundHalfEven_congr`: numbers on the same side of every half are rounded to the same whole number;
- `half_separated`: how far a quotient is from a half;
- `roundHalfEven_nearest_div`: quotients that are rounded twice as if once.
-/

namespace AmpArticle

/-! ## Nearest whole numbers -/

/-- a whole number that is nearest to another number, and the even one where two are -/
structure IsNearest (n : Int) (q : Rat) : Prop where
  near : |n - q| ≤ 1 / 2
  even : |n - q| = 1 / 2 → Even n

variable {x q c : Rat}

/-- **The nearest whole number** is the one that rounding gives. -/
theorem isNearest_iff {n : Int} : IsNearest n q ↔ n = roundHalfEven q := by
  have hbetween : n = roundHalfEven q ↔ n ≤ roundHalfEven q ∧ ¬ n + 1 ≤ roundHalfEven q := by omega
  rw [hbetween, le_roundHalfEven_iff, le_roundHalfEven_iff, not_or, not_and, Int.cast_add, Int.cast_one]
  constructor
  · rintro ⟨hnear, heven⟩
    obtain ⟨hlow, hhigh⟩ := abs_le.1 hnear
    refine ⟨?_, by linarith, fun hhalf => ?_⟩
    · rcases (show (n : Rat) - 1 / 2 ≤ q by linarith).lt_or_eq with hlt | heq
      · exact .inl hlt
      · refine .inr ⟨heq, Int.even_iff.1 (heven ?_)⟩
        rw [← heq, sub_sub_cancel, abs_of_pos (by norm_num)]
    · have hn := Int.even_iff.1 (heven (by rw [← hhalf, abs_sub_comm, show (n : Rat) + 1 - 1 / 2 - n = 1 / 2 by ring,
        abs_of_pos (by norm_num)]))
      omega
  · rintro ⟨hup, hnot, hodd⟩
    have hlow : (n : Rat) - 1 / 2 ≤ q := hup.elim le_of_lt fun h => h.1.le
    refine ⟨abs_le.2 ⟨by linarith, by linarith⟩, fun hhalf => ?_⟩
    rcases eq_or_eq_neg_of_abs_eq hhalf with h | h
    · rcases hup with hlt | ⟨-, hn⟩
      · linarith
      · exact Int.even_iff.2 hn
    · have hn := hodd (by linarith)
      exact Int.even_iff.2 (by omega)

/-- **Numbers on the same side of every half** are rounded to the same whole number. -/
theorem roundHalfEven_congr
    (h : ∀ k : Int, ((k : Rat) - 1 / 2 < x ↔ (k : Rat) - 1 / 2 < q) ∧ ((k : Rat) - 1 / 2 = x ↔ (k : Rat) - 1 / 2 = q)) :
    roundHalfEven x = roundHalfEven q := by
  have hle (n : Int) : n ≤ roundHalfEven x ↔ n ≤ roundHalfEven q := by
    rw [le_roundHalfEven_iff, le_roundHalfEven_iff, (h n).1, (h n).2]
  exact le_antisymm ((hle _).1 le_rfl) ((hle _).2 le_rfl)

/-- a number that is moved by less than its distance from another one stays on the same side of it -/
theorem same_side (h : |x - q| < |q - c|) : (c < x ↔ c < q) ∧ (c = x ↔ c = q) := by
  obtain ⟨hlow, hhigh⟩ := abs_lt.1 h
  rcases le_total c q with hle | hle
  · rw [abs_of_nonneg (by linarith)] at hlow hhigh
    exact ⟨iff_of_true (by linarith) (by linarith), iff_of_false (by linarith) (by linarith)⟩
  · rw [abs_of_nonpos (by linarith)] at hlow hhigh
    exact ⟨iff_of_false (by linarith) (by linarith), iff_of_false (by linarith) (by linarith)⟩

/-! ## Quotients -/

variable {a w : Int}

/-- **How far a quotient is from a half** when it is none. -/
theorem half_separated (hw : 0 < w) {k : Int} (h : (k : Rat) - 1 / 2 ≠ a / w) :
    1 / (2 * w) ≤ |(a : Rat) / w - (k - 1 / 2)| := by
  have hw' : (0 : Rat) < w := by exact_mod_cast hw
  have hdifference : (a : Rat) / w - (k - 1 / 2) = ((2 * a - (2 * k - 1) * w : Int) : Rat) / (2 * w) := by
    push_cast
    field_simp
  have hne : 2 * a - (2 * k - 1) * w ≠ 0 := by
    intro hzero
    rw [hzero, Int.cast_zero, zero_div] at hdifference
    exact h (sub_eq_zero.1 hdifference).symm
  have hone : (1 : Rat) ≤ |((2 * a - (2 * k - 1) * w : Int) : Rat)| := by exact_mod_cast Int.one_le_abs hne
  rw [hdifference, abs_div, abs_of_pos (by positivity : (0 : Rat) < 2 * w)]
  gcongr

open Double (nearest limit lastExponent toRat?_nearest_grid)

theorem quotient_lt (ha : 0 < a) (hw : 0 < w) (hsmall : a < 2 ^ 52) : (a : Rat) / w < 2 ^ 52 := by
  have ha' : (0 : Rat) < a := by exact_mod_cast ha
  have hw' : (1 : Rat) ≤ w := by exact_mod_cast hw
  refine (div_le_self ha'.le hw').trans_lt ?_
  exact_mod_cast hsmall

theorem quotient_lt_limit (ha : 0 < a) (hw : 0 < w) (hsmall : a < 2 ^ 52) : (a : Rat) / w < limit :=
  Double.lt_limit (by norm_num : (52 : Int) ≤ 1023) (by exact_mod_cast (quotient_lt ha hw hsmall).le)

/-- the first rounding moves a quotient by less than its distance from a half -/
theorem abs_nearest_lt (ha : 0 < a) (hw : 0 < w) (hsmall : a < 2 ^ 52) (z : Bool) {k : Int}
    (h : (k : Rat) - 1 / 2 ≠ a / w) : |(nearest (a / w) z).toRat - a / w| < |(a : Rat) / w - (k - 1 / 2)| := by
  have ha' : (0 : Rat) < a := by exact_mod_cast ha
  have hw' : (0 : Rat) < w := by exact_mod_cast hw
  have hq : 0 < (a : Rat) / w := by positivity
  have hlimit := quotient_lt_limit ha hw hsmall
  rcases lt_or_ge ((a : Rat) / w) (1 / 4) with hlt | hge
  · -- no half is near, and the last bit is small, even for a quotient that has not all its bits
    have hfar : 1 / 4 < |(a : Rat) / w - (k - 1 / 2)| := by
      rcases le_or_gt k 0 with hk | hk
      · have hk' : (k : Rat) ≤ 0 := by exact_mod_cast hk
        exact lt_abs.2 (.inl (by linarith))
      · have hk' : (1 : Rat) ≤ k := by exact_mod_cast hk
        exact lt_abs.2 (.inr (by linarith))
    have hlast : lastExponent ((a : Rat) / w) ≤ -53 := by
      refine Double.lastExponent_le hq ?_ (by decide)
      norm_num
      linarith
    calc |(nearest (a / w) z).toRat - a / w| ≤ (2 : Rat) ^ lastExponent ((a : Rat) / w) / 2 :=
          Double.abs_nearest_sub_le_bit hq hlimit z
      _ ≤ (2 : Rat) ^ (-53 : Int) / 2 := by
          gcongr
          norm_num
      _ < 1 / 4 := by norm_num
      _ < _ := hfar
  · have hlow : (2 : Rat) ^ (-1022 : Int) ≤ a / w := by
      calc (2 : Rat) ^ (-1022 : Int) ≤ (2 : Rat) ^ (-2 : Int) := zpow_le_zpow_right₀ (by norm_num) (by norm_num)
        _ = 1 / 4 := by norm_num
        _ ≤ _ := hge
    calc |(nearest (a / w) z).toRat - a / w| ≤ a / w / 2 ^ 53 := Double.abs_nearest_sub_le hlow hlimit z
      _ < 2 ^ 52 / w / 2 ^ 53 := by
          gcongr
          exact_mod_cast hsmall
      _ = 1 / (2 * w) := by ring
      _ ≤ _ := half_separated hw h

/-- **Quotients that are rounded twice** come to the same whole number as if they were rounded once. -/
theorem roundHalfEven_nearest_div (ha : 0 < a) (hw : 0 < w) (hsmall : a < 2 ^ 52) (z : Bool) :
    roundHalfEven (nearest (a / w) z).toRat = roundHalfEven (a / w) := by
  refine roundHalfEven_congr fun k => ?_
  by_cases hk : (k : Rat) - 1 / 2 = a / w
  · -- a half is kept
    have hgrid : Double.OnGrid (-1) ((a : Rat) / w) := by
      have hpos : (0 : Rat) < a / w := div_pos (by exact_mod_cast ha) (by exact_mod_cast hw)
      have hlt := quotient_lt ha hw hsmall
      have hbounds : 0 < 2 * k - 1 ∧ 2 * k - 1 < 2 ^ 53 := by
        exact_mod_cast (⟨by linarith, by linarith⟩ : (0 : Rat) < 2 * k - 1 ∧ (2 * k - 1 : Rat) < 2 ^ 53)
      refine ⟨2 * k - 1, by rw [abs_of_pos hbounds.1]; exact hbounds.2, ?_⟩
      rw [← hk]
      push_cast
      ring
    rw [(Double.toRat?_eq_some_iff.1 (toRat?_nearest_grid hgrid (by decide) (by decide) z)).2]
    exact ⟨Iff.rfl, Iff.rfl⟩
  · exact same_side (abs_nearest_lt ha hw hsmall z hk)

end AmpArticle
