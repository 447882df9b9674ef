import AmpArticle.Proofs.Number.Rounding

/-!
Numbers that are rounded to a given floating-point number: all that are nearer to it than a quarter of the distance of
its last bit.

Results:
- `Double.Canonical`: mantissa and exponent as rounding gives them;
- `nearestMagnitude_of_close`: what is close to a canonical number is rounded to it.
-/

namespace AmpArticle

theorem roundHalfEven_of_close {n : Int} {q : Rat} (h : |q - n| < 1 / 2) : roundHalfEven q = n := by
  obtain ⟨hlower, hupper⟩ := abs_lt.1 h
  have hge : n ≤ roundHalfEven q := (le_roundHalfEven_iff n q).2 (.inl (by linarith))
  have hlt : ¬ n + 1 ≤ roundHalfEven q := by
    rw [le_roundHalfEven_iff]
    push_cast
    rintro (h' | ⟨h', -⟩) <;> linarith
  omega

namespace Double

/-- a mantissa and an exponent as rounding gives them: 53 bits, or fewer at the smallest exponent -/
def IsPair (m : Nat) (e : Int) : Prop :=
  m < 2 ^ 53 ∧ minExponent ≤ e ∧ e ≤ maxExponent ∧ (2 ^ 52 ≤ m ∨ e = minExponent)

/-- a number as rounding gives it -/
def Canonical : Double → Prop
  | .finite _ m e => IsPair m e
  | _ => True

/-- how far numbers may be from a number of value `x` that are rounded to it -/
def slack (x : Rat) : Rat := x / (2 : Rat) ^ (54 : Int)

theorem two_pow_52 : (2 : Rat) ^ (52 : Int) = 4503599627370496 := by norm_num

theorem two_pow_53 : (2 : Rat) ^ (53 : Int) = 9007199254740992 := by norm_num

theorem two_pow_54 : (2 : Rat) ^ (54 : Int) = 18014398509481984 := by norm_num

section Close

variable {m : Nat} {e : Int} {q : Rat}

/-- the scaled number is within a quarter of the mantissa -/
theorem scaled_close (h : |q - m * (2 : Rat) ^ e| < slack (m * (2 : Rat) ^ e)) :
    |q / (2 : Rat) ^ e - m| < m / (2 : Rat) ^ (54 : Int) := by
  have hpos : (0 : Rat) < (2 : Rat) ^ e := by positivity
  have hscaled : q / (2 : Rat) ^ e - m = (q - m * (2 : Rat) ^ e) / (2 : Rat) ^ e := by
    field_simp
  rw [hscaled, abs_div, abs_of_pos hpos, div_lt_iff₀ hpos]
  calc |q - m * (2 : Rat) ^ e| < slack (m * (2 : Rat) ^ e) := h
    _ = m / (2 : Rat) ^ (54 : Int) * (2 : Rat) ^ e := by
      rw [slack]
      ring

/-- what a scaled number that is close to a mantissa of 53 bits is bounded by -/
theorem scaled_bounds (hm : 0 < m) (hmax : m < 2 ^ 53)
    (h : |q / (2 : Rat) ^ e - m| < m / (2 : Rat) ^ (54 : Int)) :
    (m : Rat) - 1 / 2 < q / (2 : Rat) ^ e ∧ q / (2 : Rat) ^ e < (2 : Rat) ^ (53 : Int) ∧ 0 < q / (2 : Rat) ^ e := by
  have hone : (1 : Rat) ≤ m := by exact_mod_cast hm
  have hle : (m : Rat) ≤ 9007199254740991 := by exact_mod_cast Nat.le_of_lt_succ hmax
  obtain ⟨hlower, hupper⟩ := abs_lt.1 h
  rw [two_pow_54] at hlower hupper
  rw [two_pow_53]
  refine ⟨?_, ?_, ?_⟩ <;> linarith

/-- a number close to a canonical one has its exponent, or the next smaller one just below a power of two -/
theorem lastExponent_of_close (hpair : IsPair m e) (hm : 0 < m)
    (h : |q / (2 : Rat) ^ e - m| < m / (2 : Rat) ^ (54 : Int)) :
    lastExponent q = e ∨ m = 2 ^ 52 ∧ lastExponent q = e - 1 := by
  obtain ⟨hmax, hmin, -, hnormal⟩ := hpair
  obtain ⟨hlower, hupper, hspos⟩ := scaled_bounds hm hmax h
  have hpos : (0 : Rat) < (2 : Rat) ^ e := by positivity
  have hq : 0 < q := by
    have hmul := mul_pos hspos hpos
    rwa [div_mul_cancel₀ q hpos.ne'] at hmul
  have hexponent (k : Int) : e + k ≤ binaryExponent q ↔ (2 : Rat) ^ k ≤ q / (2 : Rat) ^ e := by
    rw [le_binaryExponent_iff hq, le_div_iff₀ hpos, ← zpow_add₀ (by norm_num), add_comm]
  have hbelow : ¬ e + 53 ≤ binaryExponent q := by
    rw [hexponent]
    exact not_le.2 hupper
  by_cases hbig : (2 : Rat) ^ (52 : Int) ≤ q / (2 : Rat) ^ e
  · have habove := (hexponent 52).2 hbig
    left
    simp only [lastExponent]
    omega
  · have hsmall : ¬ e + 52 ≤ binaryExponent q := mt (hexponent 52).1 hbig
    rcases hnormal with hnormal | rfl
    · have hmeq : m = 2 ^ 52 := by
        have hlt := not_le.1 hbig
        rw [two_pow_52] at hlt
        have hcast : (m : Rat) < 4503599627370497 := by linarith
        have hnat : m < 4503599627370497 := by exact_mod_cast hcast
        omega
      have habove : e + 51 ≤ binaryExponent q := by
        rw [hexponent]
        rw [hmeq] at hlower
        norm_num at hlower ⊢
        linarith
      by_cases he : e = minExponent
      · left
        simp only [lastExponent]
        omega
      · right
        refine ⟨hmeq, ?_⟩
        simp only [lastExponent]
        omega
    · left
      simp only [lastExponent]
      omega

/-- **What is close to a canonical number is rounded to it.** -/
theorem nearestMagnitude_of_close (negative : Bool) (hpair : IsPair m e) (hm : 0 < m)
    (h : |q - m * (2 : Rat) ^ e| < slack (m * (2 : Rat) ^ e)) : nearestMagnitude negative q = .finite negative m e := by
  have hclose := scaled_close h
  have hm53 : (m : Rat) < 9007199254740992 := by exact_mod_cast hpair.1
  rw [nearestMagnitude_eq]
  rcases lastExponent_of_close hpair hm hclose with he | ⟨hmeq, he⟩
  · have hround : roundedMantissa q = m := by
      rw [roundedMantissa, he]
      refine roundHalfEven_of_close (hclose.trans_le ?_)
      rw [two_pow_54]
      linarith
    rw [hround, he, Int.toNat_natCast, if_neg hpair.1.ne, if_neg (not_lt.2 hpair.2.2.1)]
  · have hround : roundedMantissa q = (2 ^ 53 : Int) := by
      rw [roundedMantissa, he]
      have hscaled : q / (2 : Rat) ^ (e - 1) = 2 * (q / (2 : Rat) ^ e) := by
        rw [zpow_sub_one₀ (by norm_num)]
        field_simp
      refine roundHalfEven_of_close ?_
      rw [hscaled]
      rw [hmeq] at hclose
      have htwo : 2 * (q / (2 : Rat) ^ e) - ((2 ^ 53 : Int) : Rat) = 2 * (q / (2 : Rat) ^ e - (2 ^ 52 : Nat)) := by
        push_cast
        ring
      rw [htwo, abs_mul, abs_of_pos (by norm_num : (0 : Rat) < 2)]
      norm_num at hclose ⊢
      linarith
    rw [hround, he, hmeq, if_pos (by decide), sub_add_cancel, if_neg (not_lt.2 hpair.2.2.1)]

end Close

end Double

end AmpArticle
