import AmpArticle.Proofs.Number.Decimals

/-!
Literals of floating-point numbers. The sizes that reading settles without any arithmetic are those of no finite
number but zero, so what is written for a number is read back as that number.

Results:
- `Double.ofDecimal_eq`: a decimal number in the range of the numbers is rounded;
- `Double.range_of_nearest`: what is rounded to a finite number other than zero is in that range;
- `Layout.readMagnitude_literal`: the literal of a number is read back as the number.
-/

namespace AmpArticle

namespace Double

/-! ## Sizes -/

theorem ten_pow_le_two_pow (k : Nat) : 10 ^ (k * 3 / 10) ≤ 2 ^ k := by
  have hpow : (10 ^ (k * 3 / 10)) ^ 10 ≤ (2 ^ k) ^ 10 := by
    calc (10 ^ (k * 3 / 10)) ^ 10 = 10 ^ (k * 3 / 10 * 10) := (pow_mul _ _ _).symm
      _ ≤ 10 ^ (3 * k) := Nat.pow_le_pow_right (by decide) (by omega)
      _ = (10 ^ 3) ^ k := pow_mul _ _ _
      _ ≤ (2 ^ 10) ^ k := Nat.pow_le_pow_left (by decide) k
      _ = (2 ^ k) ^ 10 := by rw [← pow_mul, ← pow_mul, Nat.mul_comm]
  exact le_of_not_gt fun h => absurd hpow (not_le.2 (Nat.pow_lt_pow_left h (by decide)))

theorem two_pow_900_le : 2 ^ 900 ≤ 10 ^ 271 := by decide +kernel

theorem two_pow_1024_le : 2 ^ 1024 ≤ 10 ^ 330 := by decide +kernel

theorem two_pow_1075_le : 2 ^ 1075 ≤ 10 ^ 399 := by decide +kernel

theorem two_pow_le_all : ((List.range 900).all fun b => 2 ^ (b + 1) ≤ 10 ^ (b * 3 / 10 + 3)) = true := by
  decide +kernel

theorem two_pow_le_ten_pow (k : Nat) : 2 ^ (k + 1) ≤ 10 ^ (k * 3 / 10 + k / 900 + 3) := by
  have hrest := List.all_eq_true.1 two_pow_le_all (k % 900) (List.mem_range.2 (Nat.mod_lt _ (by decide)))
  rw [decide_eq_true_eq] at hrest
  calc 2 ^ (k + 1) = (2 ^ 900) ^ (k / 900) * 2 ^ (k % 900 + 1) := by
        rw [← pow_mul, ← pow_add]
        congr 1
        omega
    _ ≤ (10 ^ 271) ^ (k / 900) * 10 ^ (k % 900 * 3 / 10 + 3) :=
        Nat.mul_le_mul (Nat.pow_le_pow_left two_pow_900_le _) hrest
    _ = 10 ^ (k * 3 / 10 + k / 900 + 3) := by
        rw [← pow_mul, ← pow_add]
        congr 1
        omega

/-- the number of digits of a whole number, from its bits -/
theorem size_bounds {n : Nat} (hn : 0 < n) :
    10 ^ (Nat.log2 n * 3 / 10) ≤ n ∧ n < 10 ^ (Nat.log2 n * 3 / 10 + Nat.log2 n / 900 + 3) :=
  ⟨(ten_pow_le_two_pow _).trans (Nat.log2_self_le hn.ne'), Nat.lt_log2_self.trans_le (two_pow_le_ten_pow _)⟩

theorem ofDecimal_eq (negative : Bool) {n : Nat} {e : Int} (hlow : (2 : Rat) ^ (-1075 : Int) ≤ n * (10 : Rat) ^ e)
    (hhigh : n * (10 : Rat) ^ e < (2 : Rat) ^ (1024 : Int)) :
    ofDecimal negative n e = nearestMagnitude negative (n * (10 : Rat) ^ e) := by
  have hpos : (0 : Rat) < (10 : Rat) ^ e := by positivity
  have hn : 0 < n := by
    rcases Nat.eq_zero_or_pos n with rfl | hn
    · rw [Nat.cast_zero, zero_mul] at hlow
      exact absurd hlow (not_le.2 (by positivity))
    · exact hn
  obtain ⟨hlower, hupper⟩ := size_bounds hn
  generalize hk : Nat.log2 n = k at hlower hupper
  have hlower' : (10 : Rat) ^ (k * 3 / 10) ≤ n := by exact_mod_cast hlower
  have hupper' : (n : Rat) < (10 : Rat) ^ (k * 3 / 10 + k / 900 + 3) := by exact_mod_cast hupper
  unfold ofDecimal
  simp only [hk]
  rw [if_neg hn.ne', if_neg, if_neg]
  · intro hsmall
    have hlt : n * (10 : Rat) ^ e < (10 : Rat) ^ (-399 : Int) :=
      calc n * (10 : Rat) ^ e < (10 : Rat) ^ (k * 3 / 10 + k / 900 + 3) * (10 : Rat) ^ e := by gcongr
        _ = (10 : Rat) ^ (((k * 3 / 10 + k / 900 + 3 : Nat) : Int) + e) := by
          rw [zpow_add₀ (by norm_num), zpow_natCast]
        _ ≤ (10 : Rat) ^ (-399 : Int) := zpow_le_zpow_right₀ (by norm_num) (by omega)
    have hrange : (10 : Rat) ^ (-399 : Int) ≤ (2 : Rat) ^ (-1075 : Int) := by
      rw [zpow_neg, zpow_neg]
      exact inv_anti₀ (by positivity) (by exact_mod_cast two_pow_1075_le)
    exact absurd (hlow.trans_lt hlt) (not_lt.2 hrange)
  · intro hlarge
    have hle : (10 : Rat) ^ (330 : Int) ≤ n * (10 : Rat) ^ e :=
      calc (10 : Rat) ^ (330 : Int) ≤ (10 : Rat) ^ (((k * 3 / 10 : Nat) : Int) + e) :=
            zpow_le_zpow_right₀ (by norm_num) (by omega)
        _ = (10 : Rat) ^ (k * 3 / 10) * (10 : Rat) ^ e := by rw [zpow_add₀ (by norm_num), zpow_natCast]
        _ ≤ n * (10 : Rat) ^ e := by gcongr
    have hrange : (2 : Rat) ^ (1024 : Int) ≤ (10 : Rat) ^ (330 : Int) := by exact_mod_cast two_pow_1024_le
    exact absurd (hle.trans_lt hhigh) (not_lt.2 hrange)

/-! ## The range of the numbers -/

section Nearest

variable {q : Rat} {m : Nat} {e : Int}

theorem nearestMagnitude_zero : ∃ e, nearestMagnitude false 0 = .finite false 0 e := by
  have hmantissa : roundedMantissa 0 = 0 := by
    rw [roundedMantissa, zero_div]
    decide +kernel
  have hexponent : lastExponent 0 = -53 := by decide +kernel
  rw [nearestMagnitude_eq, hmantissa, hexponent]
  exact ⟨_, rfl⟩

/-- what is rounded to a number other than zero is more than half of the smallest one -/
theorem range_of_nearest (hq : 0 ≤ q) (hm : 0 < m) (h : nearestMagnitude false q = .finite false m e) :
    (2 : Rat) ^ (-1075 : Int) ≤ q ∧ q < (2 : Rat) ^ (1024 : Int) := by
  have hpos : 0 < q := by
    rcases hq.eq_or_lt with rfl | hpos
    · obtain ⟨e', he'⟩ := nearestMagnitude_zero
      rw [he'] at h
      cases h
      exact absurd hm (lt_irrefl _)
    · exact hpos
  constructor
  · by_contra hlt
    rw [not_le] at hlt
    have hexponent : ¬ -1075 ≤ binaryExponent q := by
      rw [le_binaryExponent_iff hpos]
      exact not_le.2 hlt
    have hlast : lastExponent q = -1074 := by
      simp only [lastExponent, minExponent]
      omega
    have hmantissa : roundedMantissa q = 0 := by
      rw [roundedMantissa, hlast]
      have hscale : (0 : Rat) < (2 : Rat) ^ (-1074 : Int) := by positivity
      have hhalf : (2 : Rat) ^ (-1075 : Int) = 1 / 2 * (2 : Rat) ^ (-1074 : Int) := by
        rw [show (-1074 : Int) = -1075 + 1 by norm_num, zpow_add_one₀ (by norm_num)]
        ring
      refine roundHalfEven_of_close ?_
      rw [Int.cast_zero, sub_zero, abs_of_pos (div_pos hpos hscale), div_lt_iff₀ hscale, ← hhalf]
      exact hlt
    rw [nearestMagnitude_eq, hmantissa, hlast] at h
    cases h
    exact absurd hm (lt_irrefl _)
  · have hfinite := (nearestMagnitude_isFinite_iff false hpos).1 (by rw [h]; rfl)
    exact hfinite.trans limit_bounds.2

/-- the sign of a number has no part in rounding -/
theorem nearestMagnitude_sign (negative : Bool) (h : nearestMagnitude false q = .finite false m e) :
    nearestMagnitude negative q = .finite negative m e := by
  rw [nearestMagnitude_eq] at h ⊢
  split_ifs at h ⊢ <;> cases h <;> rfl

end Nearest

end Double

/-! ## Literals -/

namespace Layout

open Double (IsPair)
open Json (StopsNumber)

variable {m : Nat} {e : Int} {rest : List Char}

theorem render_negative (layout : Layout) (m : Nat) (e : Int) :
    layout.render (.finite true m e) = "-" ++ layout.render (.finite false m e) := rfl

theorem readMagnitude_zero (negative : Bool) (hrest : StopsNumber rest) :
    Json.readMagnitude negative ((literal.render (.finite false 0 e)).toList ++ rest) =
      some (.real (Double.zero negative), rest) := by
  have hread := Json.readMagnitude_point Json.isWhole_zero negative (List.cons_ne_nil '0' []) (Json.allDigits_zeros 1)
    hrest
  have hrender : (literal.render (.finite false 0 e)).toList = ['0', '.', '0'] := by
    show "0.0".toList = _
    decide
  rw [hrender]
  exact hread

theorem readMagnitude_shortest (hpair : IsPair m e) (hm : 0 < m) (negative : Bool) (hrest : StopsNumber rest) :
    Json.readMagnitude negative ((literal.render (.finite false m e)).toList ++ rest) =
      some (.real (.finite negative m e), rest) := by
  have hrender : literal.render (.finite false m e) =
      literal.renderDigits (Digits.shortest (.finite false m e) (m * (2 : Rat) ^ e)) := by
    show (if m = 0 then _ else _) = _
    exact if_neg hm.ne'
  obtain ⟨n, unit, hnearest, hshortest⟩ := Digits.shortest_spec hpair hm
  have hnonneg : (0 : Rat) ≤ n * (10 : Rat) ^ unit := by positivity
  obtain ⟨hlow, hhigh⟩ := Double.range_of_nearest hnonneg hm hnearest
  have hn : 0 < n := by
    rcases Nat.eq_zero_or_pos n with rfl | hn
    · rw [Nat.cast_zero, zero_mul] at hlow
      exact absurd hlow (not_le.2 (by positivity))
    · exact hn
  obtain ⟨hproper, hvalue⟩ := Digits.ofNat_spec hn unit
  obtain ⟨n', e', hread, hsame⟩ := readsAs_renderDigits hproper negative hrest
  rw [hvalue] at hsame
  rw [hrender, hshortest, hread, Double.ofDecimal_eq negative (hsame ▸ hlow) (hsame ▸ hhigh), hsame,
    Double.nearestMagnitude_sign negative hnearest]

/-- **The literal of a number is read back as the number.** -/
theorem readMagnitude_literal (hpair : IsPair m e) (negative : Bool) (hrest : StopsNumber rest) :
    Json.readMagnitude negative ((literal.render (.finite false m e)).toList ++ rest) =
      some (.real (.finite negative m e), rest) := by
  rcases Nat.eq_zero_or_pos m with rfl | hm
  · rcases hpair.2.2.2 with hlarge | rfl
    · exact absurd hlarge (by decide)
    · exact readMagnitude_zero negative hrest
  · exact readMagnitude_shortest hpair hm negative hrest

end Layout

end AmpArticle
