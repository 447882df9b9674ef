import AmpArticle.Number.Digits
import AmpArticle.Proofs.Number.Nearness

/-!
Seventeen significant decimal digits tell every floating-point number from all others. On the grid of seventeen digits
a number has a neighbour that is rounded back to it, so a search for the fewest digits that do ends there.

Results:
- `ten_pow_decimalExponent_le`: the decimal exponent bounds a number from below;
- `readsBack_seventeen`: the grid of seventeen digits;
- `shortest_spec`: the shortest digits of a number are rounded back to it.
-/

namespace AmpArticle

/-! ## Decimal exponents -/

theorem zpow_eq_div (b : Rat) (k : Int) : b ^ k = b ^ k.toNat / b ^ (-k).toNat := by
  obtain ⟨n, rfl | rfl⟩ := k.eq_nat_or_neg
  · simp
  · simp

/-- a decimal exponent one below the guess for a binary exponent, compared in whole numbers -/
def guessIsLow (e : Int) : Bool :=
  let k := (e * 30103).fdiv 100000 - 1
  10 ^ k.toNat * 2 ^ (-e).toNat ≤ 2 ^ e.toNat * 10 ^ (-k).toNat

theorem guessIsLow_all : ((List.range 2098).all fun i => guessIsLow ((i : Int) - 1074)) = true := by decide +kernel

/-- the guess for a binary exponent in the range of the numbers is at most one too large -/
theorem ten_pow_guess_le {e : Int} (hlow : -1074 ≤ e) (hhigh : e < 1024) :
    (10 : Rat) ^ ((e * 30103).fdiv 100000 - 1) ≤ (2 : Rat) ^ e := by
  have hall := List.all_eq_true.1 guessIsLow_all (e + 1074).toNat (List.mem_range.2 (by omega))
  rw [show (((e + 1074).toNat : Nat) : Int) - 1074 = e by omega, guessIsLow, decide_eq_true_eq] at hall
  rw [zpow_eq_div 10, zpow_eq_div 2, div_le_div_iff₀ (by positivity) (by positivity)]
  exact_mod_cast hall

namespace Digits

theorem ten_pow_decimalExponent_le {q : Rat} (hlow : (2 : Rat) ^ (-1074 : Int) ≤ q) (hhigh : q < (2 : Rat) ^ (1024 : Int)) :
    (10 : Rat) ^ decimalExponent q ≤ q := by
  have hq : 0 < q := lt_of_lt_of_le (by positivity) hlow
  obtain ⟨hlower, -⟩ := binaryExponent_spec hq
  have hmin : -1074 ≤ binaryExponent q := (le_binaryExponent_iff hq _).2 hlow
  have hmax : binaryExponent q < 1024 := by
    by_contra hge
    exact absurd ((le_binaryExponent_iff hq 1024).1 (not_lt.1 hge)) (not_le.2 hhigh)
  simp only [decimalExponent]
  split_ifs with h1 h2
  · exact h1
  · exact h2
  · exact (ten_pow_guess_le hmin hmax).trans hlower

/-! ## The grid of seventeen digits -/

open Double (IsPair slack nearestMagnitude)

section Grid

variable {m : Nat} {e : Int}

theorem pair_bounds (hpair : IsPair m e) (hm : 0 < m) :
    (2 : Rat) ^ (-1074 : Int) ≤ m * (2 : Rat) ^ e ∧ m * (2 : Rat) ^ e < (2 : Rat) ^ (1024 : Int) := by
  obtain ⟨hmax, hmin, hle, -⟩ := hpair
  have hpos : (0 : Rat) < (2 : Rat) ^ e := by positivity
  have hone : (1 : Rat) ≤ m := by exact_mod_cast hm
  have hm53 : (m : Rat) < (2 : Rat) ^ (53 : Int) := by exact_mod_cast hmax
  constructor
  · calc (2 : Rat) ^ (-1074 : Int) ≤ (2 : Rat) ^ e := zpow_le_zpow_right₀ (by norm_num) hmin
      _ ≤ m * (2 : Rat) ^ e := le_mul_of_one_le_left hpos.le hone
  · calc m * (2 : Rat) ^ e < (2 : Rat) ^ (53 : Int) * (2 : Rat) ^ e := by gcongr
      _ = (2 : Rat) ^ (53 + e) := (zpow_add₀ (by norm_num) _ _).symm
      _ ≤ (2 : Rat) ^ (1024 : Int) := zpow_le_zpow_right₀ (by norm_num) (by simp only [Double.maxExponent] at hle; omega)

/-- a point of the grid within half a step of a number is rounded back to it -/
theorem grid_close {q : Rat} {unit : Int} {n : Nat} (hunit : (10 : Rat) ^ (unit + 16) ≤ q)
    (hn : |(n : Rat) - q / (10 : Rat) ^ unit| ≤ 1 / 2) : |(n : Rat) * (10 : Rat) ^ unit - q| < slack q := by
  have hpos : (0 : Rat) < (10 : Rat) ^ unit := by positivity
  have hstep : (10 : Rat) ^ (unit + 16) = (10 : Rat) ^ unit * 10000000000000000 := by
    rw [zpow_add₀ (by norm_num)]
    norm_num
  have hdiff : (n : Rat) * (10 : Rat) ^ unit - q = ((n : Rat) - q / (10 : Rat) ^ unit) * (10 : Rat) ^ unit := by
    field_simp
  rw [hstep] at hunit
  rw [hdiff, abs_mul, abs_of_pos hpos, slack, Double.two_pow_54]
  generalize (10 : Rat) ^ unit = u at hpos hunit hn
  calc |(n : Rat) - q / u| * u ≤ 1 / 2 * u := by gcongr
    _ < q / 18014398509481984 := by linarith

theorem nat_floor_cast {q : Rat} (hq : 0 ≤ q) : ((q.floor.toNat : Nat) : Rat) = q.floor := by
  have hfloor : 0 ≤ q.floor := Rat.le_floor_iff.2 (by exact_mod_cast hq)
  exact_mod_cast congrArg (Int.cast (R := Rat)) (Int.toNat_of_nonneg hfloor)

/-- a step of the grid of `count` digits around a number -/
def gridUnit (q : Rat) (count : Nat) : Int := decimalExponent q - (count : Int) + 1

/-- the point of the grid below a number, in steps -/
def gridBelow (q : Rat) (count : Nat) : Nat := (q / (10 : Rat) ^ gridUnit q count).floor.toNat

/-- a point of the grid that is rounded to `x` -/
def Works (x : Double) (q : Rat) (count n : Nat) : Prop :=
  nearestMagnitude false ((n : Rat) * (10 : Rat) ^ gridUnit q count) = x

theorem readsBack_isSome {x : Double} {q : Rat} {count : Nat}
    (h : Works x q count (gridBelow q count) ∨ Works x q count (gridBelow q count + 1)) :
    (readsBack? x q count).isSome = true := by
  have hworks (n : Nat) (hn : Works x q count n) :
      (nearestMagnitude false ((n : Rat) * (10 : Rat) ^ gridUnit q count) == x) = true := beq_iff_eq.2 hn
  unfold readsBack?
  simp only
  split
  · split_ifs <;> rfl
  · rfl
  · rfl
  · rename_i hlow hhigh
    rcases h with h | h
    · cases (hworks _ h).symm.trans hlow
    · cases (hworks _ h).symm.trans hhigh

/-- digits that are found are rounded back -/
theorem readsBack_spec {x : Double} {q : Rat} {count : Nat} {d : Digits} (h : readsBack? x q count = some d) :
    ∃ n, Works x q count n ∧ d = ofNat n (gridUnit q count) := by
  have hworks (n : Nat) (hn : (nearestMagnitude false ((n : Rat) * (10 : Rat) ^ gridUnit q count) == x) = true) :
      Works x q count n := beq_iff_eq.1 hn
  unfold readsBack? at h
  simp only at h
  split at h
  · rename_i hlow hhigh
    split_ifs at h
    · exact ⟨_, hworks _ hlow, (Option.some.inj h).symm⟩
    · exact ⟨_, hworks _ hhigh, (Option.some.inj h).symm⟩
  · rename_i hlow _
    exact ⟨_, hworks _ hlow, (Option.some.inj h).symm⟩
  · rename_i _ hhigh
    exact ⟨_, hworks _ hhigh, (Option.some.inj h).symm⟩
  · cases h

/-- the shortest digits are those of some whole number of units -/
theorem shortest_eq_ofNat (x : Double) (q : Rat) : ∃ n unit, shortest x q = ofNat n unit := by
  unfold shortest
  cases hfound : (List.range 17).findSome? fun n => readsBack? x q (n + 1) with
  | none => exact ⟨_, _, rfl⟩
  | some d =>
    obtain ⟨count, -, hcount⟩ := List.exists_of_findSome?_eq_some hfound
    obtain ⟨n, -, hd⟩ := readsBack_spec hcount
    exact ⟨n, _, hd⟩

/-- **Seventeen digits are enough.** -/
theorem readsBack_seventeen (hpair : IsPair m e) (hm : 0 < m) :
    (readsBack? (.finite false m e) (m * (2 : Rat) ^ e) 17).isSome = true := by
  obtain ⟨hlow, hhigh⟩ := pair_bounds hpair hm
  have hunit : (10 : Rat) ^ (gridUnit (m * (2 : Rat) ^ e) 17 + 16) ≤ m * (2 : Rat) ^ e := by
    rw [gridUnit, show decimalExponent (m * (2 : Rat) ^ e) - ((17 : Nat) : Int) + 1 + 16 =
      decimalExponent (m * (2 : Rat) ^ e) by push_cast; ring]
    exact ten_pow_decimalExponent_le hlow hhigh
  have hworks (n : Nat) (hn : |(n : Rat) - m * (2 : Rat) ^ e / (10 : Rat) ^ gridUnit (m * (2 : Rat) ^ e) 17| ≤ 1 / 2) :
      Works (.finite false m e) (m * (2 : Rat) ^ e) 17 n :=
    Double.nearestMagnitude_of_close false hpair hm (grid_close hunit hn)
  have hbelow := nat_floor_cast (q := m * (2 : Rat) ^ e / (10 : Rat) ^ gridUnit (m * (2 : Rat) ^ e) 17) (by positivity)
  have hfloor := Rat.floor_le (m * (2 : Rat) ^ e / (10 : Rat) ^ gridUnit (m * (2 : Rat) ^ e) 17)
  have hnext := Rat.lt_floor_add_one (m * (2 : Rat) ^ e / (10 : Rat) ^ gridUnit (m * (2 : Rat) ^ e) 17)
  refine readsBack_isSome ?_
  rw [← gridBelow] at hbelow
  push_cast at hnext
  rw [← hbelow] at hfloor hnext
  by_cases hhalf : m * (2 : Rat) ^ e / (10 : Rat) ^ gridUnit (m * (2 : Rat) ^ e) 17 -
      gridBelow (m * (2 : Rat) ^ e) 17 ≤ 1 / 2
  · refine .inl (hworks _ (abs_le.2 ⟨?_, ?_⟩)) <;> linarith
  · refine .inr (hworks _ (abs_le.2 ⟨?_, ?_⟩)) <;> push_cast <;> linarith

/-- **The shortest digits of a number** are rounded back to it. -/
theorem shortest_spec (hpair : IsPair m e) (hm : 0 < m) :
    ∃ (n : Nat) (unit : Int), nearestMagnitude false ((n : Rat) * (10 : Rat) ^ unit) = .finite false m e ∧
      shortest (.finite false m e) (m * (2 : Rat) ^ e) = ofNat n unit := by
  have hsome : ((List.range 17).findSome? fun n =>
      readsBack? (.finite false m e) (m * (2 : Rat) ^ e) (n + 1)).isSome = true :=
    List.findSome?_isSome_iff.2 ⟨16, by decide, readsBack_seventeen hpair hm⟩
  obtain ⟨d, hd⟩ := Option.isSome_iff_exists.1 hsome
  obtain ⟨count, -, hcount⟩ := List.exists_of_findSome?_eq_some hd
  obtain ⟨n, hn, rfl⟩ := readsBack_spec hcount
  refine ⟨n, gridUnit (m * (2 : Rat) ^ e) (count + 1), hn, ?_⟩
  rw [shortest, hd, Option.getD_some]

end Grid

end Digits

end AmpArticle
