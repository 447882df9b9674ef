import AmpArticle.Number.Double
import Mathlib.Tactic

/-!
Rounding to floating-point numbers.

Results:
- `binaryExponent_spec`: the binary exponent of a positive number bounds it from both sides;
- `le_roundHalfEven_iff`: when a number is rounded to at least a given integer;
- `nearestMagnitude_isFinite_iff`, `ofInt_isFinite_iff`: what is too large for a floating-point number.
-/

namespace AmpArticle

/-! ## Exponents -/

theorem quotient_bounds {m d : Nat} (hm : 0 < m) (hd : 0 < d) :
    (2 : Rat) ^ ((Nat.log2 m : Int) - Nat.log2 d - 1) ≤ (m : Rat) / d ∧
      (m : Rat) / d < (2 : Rat) ^ ((Nat.log2 m : Int) - Nat.log2 d + 1) := by
  have hm1 : (2 : Rat) ^ (Nat.log2 m : Int) ≤ m := by exact_mod_cast Nat.log2_self_le hm.ne'
  have hm2 : (m : Rat) < (2 : Rat) ^ ((Nat.log2 m : Int) + 1) := by exact_mod_cast Nat.lt_log2_self (n := m)
  have hd1 : (2 : Rat) ^ (Nat.log2 d : Int) ≤ d := by exact_mod_cast Nat.log2_self_le hd.ne'
  have hd2 : (d : Rat) ≤ (2 : Rat) ^ ((Nat.log2 d : Int) + 1) := by
    have h : (d : Rat) < (2 : Rat) ^ ((Nat.log2 d : Int) + 1) := by exact_mod_cast Nat.lt_log2_self (n := d)
    exact h.le
  have hdpos : (0 : Rat) < d := by exact_mod_cast hd
  have hpow (a b : Int) : (2 : Rat) ^ a * (2 : Rat) ^ b = (2 : Rat) ^ (a + b) :=
    (zpow_add₀ (by norm_num) a b).symm
  constructor
  · rw [le_div_iff₀ hdpos]
    calc (2 : Rat) ^ ((Nat.log2 m : Int) - Nat.log2 d - 1) * d
        ≤ (2 : Rat) ^ ((Nat.log2 m : Int) - Nat.log2 d - 1) * (2 : Rat) ^ ((Nat.log2 d : Int) + 1) := by
          gcongr
      _ = (2 : Rat) ^ (Nat.log2 m : Int) := by
          rw [hpow]
          congr 1
          ring
      _ ≤ m := hm1
  · rw [div_lt_iff₀ hdpos]
    calc (m : Rat) < (2 : Rat) ^ ((Nat.log2 m : Int) + 1) := hm2
      _ = (2 : Rat) ^ ((Nat.log2 m : Int) - Nat.log2 d + 1) * (2 : Rat) ^ (Nat.log2 d : Int) := by
          rw [hpow]
          congr 1
          ring
      _ ≤ (2 : Rat) ^ ((Nat.log2 m : Int) - Nat.log2 d + 1) * d := by
          gcongr

theorem binaryExponent_spec {q : Rat} (hq : 0 < q) :
    (2 : Rat) ^ binaryExponent q ≤ q ∧ q < (2 : Rat) ^ (binaryExponent q + 1) := by
  have hnum : 0 < q.num := Rat.num_pos.2 hq
  have habs : ((q.num.natAbs : Int) : Rat) = q.num := by rw [Int.natAbs_of_nonneg hnum.le]
  have hqeq : ((q.num.natAbs : Nat) : Rat) / q.den = q := by
    rw [Int.cast_natCast] at habs
    rw [habs, Rat.num_div_den]
  obtain ⟨hlower, hupper⟩ := quotient_bounds (Int.natAbs_pos.2 hnum.ne') q.den_pos
  rw [hqeq] at hlower hupper
  simp only [binaryExponent]
  split
  · rename_i hguess
    exact ⟨hguess, hupper⟩
  · rename_i hguess
    rw [sub_add_cancel]
    exact ⟨hlower, not_le.1 hguess⟩

theorem le_binaryExponent_iff {q : Rat} (hq : 0 < q) (e : Int) : e ≤ binaryExponent q ↔ (2 : Rat) ^ e ≤ q := by
  obtain ⟨hlower, hupper⟩ := binaryExponent_spec hq
  constructor
  · intro h
    exact (zpow_le_zpow_right₀ (by norm_num) h).trans hlower
  · intro h
    have h1 := (zpow_lt_zpow_iff_right₀ (by norm_num : (1 : Rat) < 2)).1 (h.trans_lt hupper)
    omega

/-! ## Nearest integers -/

theorem roundHalfEven_bounds (q : Rat) : q.floor ≤ roundHalfEven q ∧ roundHalfEven q ≤ q.floor + 1 := by
  unfold roundHalfEven
  simp only
  split_ifs <;> omega

/-- which of its two neighbours a number is rounded to -/
theorem roundHalfEven_up_iff (q : Rat) : q.floor + 1 ≤ roundHalfEven q ↔
    (q.floor : Rat) + 1 / 2 < q ∨ (q.floor : Rat) + 1 / 2 = q ∧ (q.floor + 1) % 2 = 0 := by
  unfold roundHalfEven
  simp only
  split_ifs with h1 h2 h3
  · have hlt : q < q.floor + 1 / 2 := by linarith
    constructor
    · intro h
      omega
    · rintro (h | ⟨h, -⟩) <;> linarith
  · have hlt : (q.floor : Rat) + 1 / 2 < q := by linarith
    exact ⟨fun _ => .inl hlt, fun _ => le_rfl⟩
  · constructor
    · intro h
      omega
    · rintro (h | ⟨-, h⟩)
      · linarith
      · omega
  · have heq : (q.floor : Rat) + 1 / 2 = q := by linarith
    exact ⟨fun _ => .inr ⟨heq, by omega⟩, fun _ => le_rfl⟩

theorem le_roundHalfEven_iff (n : Int) (q : Rat) :
    n ≤ roundHalfEven q ↔ (n : Rat) - 1 / 2 < q ∨ (n : Rat) - 1 / 2 = q ∧ n % 2 = 0 := by
  have hfloor : (q.floor : Rat) ≤ q := Rat.floor_le q
  have hnext : q < q.floor + 1 := by exact_mod_cast Rat.lt_floor_add_one q
  obtain ⟨hlow, hhigh⟩ := roundHalfEven_bounds q
  rcases lt_trichotomy n (q.floor + 1) with h | rfl | h
  · have hn : (n : Rat) ≤ q.floor := by exact_mod_cast Int.lt_add_one_iff.1 h
    exact ⟨fun _ => .inl (by linarith), fun _ => by omega⟩
  · rw [roundHalfEven_up_iff]
    push_cast
    have hhalf : (q.floor : Rat) + 1 - 1 / 2 = q.floor + 1 / 2 := by ring
    rw [hhalf]
  · have hn : (q.floor : Rat) + 2 ≤ n := by
      have h' : q.floor + 2 ≤ n := by omega
      exact_mod_cast h'
    constructor
    · intro h'
      omega
    · rintro (h' | ⟨h', -⟩) <;> linarith

/-! ## What is too large -/

namespace Double

/-- the first number that is too large: halfway from the largest finite one to the next power of two -/
def limit : Rat := (2 : Rat) ^ (1024 : Int) - (2 : Rat) ^ (970 : Int)

theorem limit_eq : limit = ((2 : Rat) ^ (53 : Int) - 1 / 2) * (2 : Rat) ^ (971 : Int) := by
  have h1 : (2 : Rat) ^ (1024 : Int) = (2 : Rat) ^ (53 : Int) * (2 : Rat) ^ (971 : Int) :=
    zpow_add₀ (by norm_num) 53 971
  have h2 : (2 : Rat) ^ (971 : Int) = (2 : Rat) ^ (970 : Int) * 2 := zpow_add_one₀ (by norm_num) 970
  rw [limit, h1, h2]
  ring

theorem limit_bounds : (2 : Rat) ^ (1023 : Int) < limit ∧ limit < (2 : Rat) ^ (1024 : Int) := by
  have h1 : (2 : Rat) ^ (1024 : Int) = (2 : Rat) ^ (1023 : Int) * 2 := zpow_add_one₀ (by norm_num) 1023
  have h2 : (2 : Rat) ^ (970 : Int) < (2 : Rat) ^ (1023 : Int) := zpow_lt_zpow_right₀ (by norm_num) (by norm_num)
  have h3 : (0 : Rat) < (2 : Rat) ^ (970 : Int) := by positivity
  rw [limit, h1]
  generalize (2 : Rat) ^ (1023 : Int) = x at h2
  generalize (2 : Rat) ^ (970 : Int) = y at h2 h3
  constructor <;> linarith

/-- the exponent of the last bit of a number -/
def lastExponent (q : Rat) : Int := max (binaryExponent q - 52) minExponent

/-- the mantissa of a number as it is rounded, before a carry -/
def roundedMantissa (q : Rat) : Int := roundHalfEven (q / (2 : Rat) ^ lastExponent q)

theorem lastExponent_bounds {q : Rat} (hq : 0 < q) :
    0 < q / (2 : Rat) ^ lastExponent q ∧ q / (2 : Rat) ^ lastExponent q < (2 : Rat) ^ (53 : Int) := by
  obtain ⟨-, hupper⟩ := binaryExponent_spec hq
  have hpos : (0 : Rat) < (2 : Rat) ^ lastExponent q := by positivity
  refine ⟨by positivity, ?_⟩
  rw [div_lt_iff₀ hpos, ← zpow_add₀ (by norm_num)]
  refine hupper.trans_le (zpow_le_zpow_right₀ (by norm_num) ?_)
  simp only [lastExponent]
  omega

theorem roundedMantissa_bounds {q : Rat} (hq : 0 < q) : 0 ≤ roundedMantissa q ∧ roundedMantissa q ≤ 2 ^ 53 := by
  obtain ⟨hpos, hlt⟩ := lastExponent_bounds hq
  constructor
  · refine (le_roundHalfEven_iff _ _).2 (.inl ?_)
    push_cast
    linarith
  · by_contra h
    rcases (le_roundHalfEven_iff _ _).1 (Int.add_one_le_of_lt (not_le.1 h)) with h' | ⟨h', -⟩
    · norm_num at h' hlt
      linarith
    · norm_num at h' hlt
      linarith

theorem nearestMagnitude_rounded (negative : Bool) (q : Rat) : nearestMagnitude negative q =
    let (m, e) := if (roundedMantissa q).toNat = 2 ^ 53 then (2 ^ 52, lastExponent q + 1)
      else ((roundedMantissa q).toNat, lastExponent q)
    if maxExponent < e then infinity negative else finite negative m e := rfl

theorem nearestMagnitude_eq (negative : Bool) (q : Rat) : nearestMagnitude negative q =
    if (roundedMantissa q).toNat = 2 ^ 53 then
      if maxExponent < lastExponent q + 1 then .infinity negative else .finite negative (2 ^ 52) (lastExponent q + 1)
    else if maxExponent < lastExponent q then .infinity negative
    else .finite negative (roundedMantissa q).toNat (lastExponent q) := by
  rw [nearestMagnitude_rounded]
  by_cases hcarry : (roundedMantissa q).toNat = 2 ^ 53
  · rw [if_pos hcarry, if_pos hcarry]
  · rw [if_neg hcarry, if_neg hcarry]

/-- at the largest exponent a number is rounded up to the next power of two exactly when it is too large -/
theorem carry_iff {q : Rat} (hq : 0 < q) (he : lastExponent q = 971) :
    (roundedMantissa q).toNat = 2 ^ 53 ↔ limit ≤ q := by
  obtain ⟨hzero, hmax⟩ := roundedMantissa_bounds hq
  have hpos : (0 : Rat) < (2 : Rat) ^ (971 : Int) := by positivity
  have hcarry : (roundedMantissa q).toNat = 2 ^ 53 ↔ 2 ^ 53 ≤ roundedMantissa q := by omega
  rw [hcarry, roundedMantissa, he, le_roundHalfEven_iff, limit_eq, ← le_div_iff₀ hpos, le_iff_lt_or_eq]
  norm_num

theorem nearestMagnitude_isFinite_iff (negative : Bool) {q : Rat} (hq : 0 < q) :
    (nearestMagnitude negative q).isFinite = true ↔ q < limit := by
  obtain ⟨hlower, hupper⟩ := binaryExponent_spec hq
  obtain ⟨hlimit, hlimit'⟩ := limit_bounds
  rw [nearestMagnitude_eq]
  rcases lt_trichotomy (binaryExponent q) 1023 with h | h | h
  · have he : lastExponent q + 1 ≤ maxExponent := by
      simp only [lastExponent, minExponent, maxExponent]
      omega
    have hsmall : (2 : Rat) ^ (binaryExponent q + 1) ≤ (2 : Rat) ^ (1023 : Int) :=
      zpow_le_zpow_right₀ (by norm_num) (by omega)
    refine ⟨fun _ => (hupper.trans_le hsmall).trans hlimit, fun _ => ?_⟩
    split_ifs <;> first | rfl | omega
  · have he : lastExponent q = 971 := by
      simp only [lastExponent, minExponent]
      omega
    by_cases hcarry : (roundedMantissa q).toNat = 2 ^ 53
    · have hge := not_lt.2 ((carry_iff hq he).1 hcarry)
      simp [hcarry, he, maxExponent, isFinite, hge]
    · have hlt := not_le.1 (mt (carry_iff hq he).2 hcarry)
      rw [if_neg hcarry, if_neg (by rw [he]; decide)]
      simp [isFinite, hlt]
  · have he : maxExponent < lastExponent q := by
      simp only [lastExponent, minExponent, maxExponent]
      omega
    have hlarge : (2 : Rat) ^ (1024 : Int) ≤ (2 : Rat) ^ binaryExponent q :=
      zpow_le_zpow_right₀ (by norm_num) (by omega)
    have hge : ¬ q < limit := not_lt.2 (hlimit'.le.trans (hlarge.trans hlower))
    refine ⟨fun h => ?_, fun h => absurd h hge⟩
    split_ifs at h
    all_goals first
      | omega
      | cases h

theorem abs_eq (q : Rat) : q.abs = |q| := by
  unfold Rat.abs
  split
  · rename_i h
    exact (abs_of_nonneg h).symm
  · rename_i h
    exact (abs_of_neg (not_le.1 h)).symm

theorem nearest_isFinite_iff (q : Rat) (negativeZero : Bool) :
    (nearest q negativeZero).isFinite = true ↔ |q| < limit := by
  unfold nearest
  split
  · rename_i hq
    have hpos : (0 : Rat) < limit := lt_trans (by positivity) limit_bounds.1
    simp [hq, zero, isFinite, hpos]
  · rename_i hq
    rw [abs_eq]
    exact nearestMagnitude_isFinite_iff _ (abs_pos.2 hq)

theorem ofInt_isFinite_iff (n : Int) : (ofInt n).isFinite = true ↔ |(n : Rat)| < limit := nearest_isFinite_iff _ _

/-- rounding never gives a number without value -/
theorem nearest_ne_nan (q : Rat) (negativeZero : Bool) : nearest q negativeZero ≠ .nan := by
  unfold nearest
  split
  · simp [zero]
  · rw [nearestMagnitude_eq]
    split_ifs <;> simp

end Double

end AmpArticle
