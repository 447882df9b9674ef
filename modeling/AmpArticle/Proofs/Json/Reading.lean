import AmpArticle.Proofs.Json.RoundTrip
import AmpArticle.Proofs.Results

/-!
What reading gives. Numbers are as rounding leaves them and keys are told apart while an object is read, so a value
is a proper one whatever text it comes from and whatever limits the reader has.

Results:
- `Double.nearestMagnitude_canonical`, `Double.ofDecimal_canonical`: the numbers that rounding gives;
- `readWithin_wellFormed`: a value that was read is well formed.
-/

namespace AmpArticle

/-! ## Numbers -/

namespace Double

theorem isPair_rounded {q : Rat} (hq : 0 < q) (hcarry : (roundedMantissa q).toNat ≠ 2 ^ 53)
    (hmax : ¬ maxExponent < lastExponent q) : IsPair (roundedMantissa q).toNat (lastExponent q) := by
  obtain ⟨hzero, hle⟩ := roundedMantissa_bounds hq
  obtain ⟨hlower, -⟩ := binaryExponent_spec hq
  refine ⟨by omega, le_max_right _ _, not_lt.1 hmax, ?_⟩
  by_cases hmin : lastExponent q = minExponent
  · exact .inr hmin
  · -- the number has all its bits, so the mantissa is not smaller than its first one
    have hlast : lastExponent q = binaryExponent q - 52 := by
      simp only [lastExponent] at hmin ⊢
      omega
    have hpos : (0 : Rat) < (2 : Rat) ^ lastExponent q := by positivity
    have hscaled : (2 : Rat) ^ (52 : Int) ≤ q / (2 : Rat) ^ lastExponent q := by
      rw [le_div_iff₀ hpos, ← zpow_add₀ (by norm_num), hlast]
      simpa using hlower
    have hmantissa : (2 ^ 52 : Int) ≤ roundedMantissa q := by
      refine (le_roundHalfEven_iff _ _).2 (.inl ?_)
      rw [two_pow_52] at hscaled
      push_cast
      linarith
    left
    omega

theorem nearestMagnitude_canonical (negative : Bool) {q : Rat} (hq : 0 < q) :
    (nearestMagnitude negative q).Canonical := by
  rw [nearestMagnitude_eq]
  split_ifs with hcarry hmax hmax
  · trivial
  · exact ⟨by decide, Int.le_add_one (le_max_right _ _), not_lt.1 hmax, .inl le_rfl⟩
  · trivial
  · exact isPair_rounded hq hcarry hmax

theorem ofDecimal_canonical (negative : Bool) (n : Nat) (e : Int) : (ofDecimal negative n e).Canonical := by
  have hzero : (zero negative).Canonical := ⟨by decide, le_rfl, by decide, .inr rfl⟩
  unfold ofDecimal
  dsimp only
  split_ifs with hn
  · exact hzero
  · trivial
  · exact hzero
  · have hpos : 0 < n := Nat.pos_of_ne_zero hn
    exact nearestMagnitude_canonical negative (by positivity)

end Double

namespace Json

/-! ## Entries -/

theorem insertEntry_wellFormed {key : String} {value : Json} {entries : List (String × Json)} (hvalue : value.WellFormed)
    (h : EntriesWellFormed entries) : EntriesWellFormed (insertEntry key value entries) := by
  induction entries with
  | nil => exact ⟨hvalue, trivial⟩
  | cons e entries ih =>
    obtain ⟨k, v⟩ := e
    rw [insertEntry]
    split_ifs
    · exact ⟨hvalue, h.2⟩
    · exact ⟨h.1, ih h.2⟩

/-! ## Reading -/

variable {limits : Limits} {cs rest : List Char} {v : Json}

theorem assembled_wellFormed (negative : Bool) (whole fraction : List Char) (exponent : Option (Int × List Char))
    (rest : List Char) : (assembled negative whole fraction exponent rest).1.WellFormed := by
  unfold assembled
  split
  · trivial
  · exact Double.ofDecimal_canonical _ _ _

theorem readMagnitude_wellFormed {negative : Bool} (h : readMagnitude negative cs = some (v, rest)) : v.WellFormed := by
  rw [readMagnitude_assembled] at h
  split_ifs at h
  have hv := congrArg Prod.fst (Option.some.inj h)
  rw [← show _ = v from hv]
  exact assembled_wellFormed _ _ _ _ _

theorem readNumber_wellFormed (h : readNumber limits cs = .ok (v, rest)) : v.WellFormed := by
  unfold readNumber at h
  dsimp only at h
  split at h
  · split at h
    · cases h
      trivial
    · cases h
  · rename_i found _ hfound
    cases h
    exact readMagnitude_wellFormed hfound
  · cases h

theorem readScalar_wellFormed (h : readScalar limits cs = .ok (v, rest)) : v.WellFormed := by
  unfold readScalar at h
  dsimp only at h
  -- the six words, each of them a value on its own
  iterate 6
    split at h
    · cases h
      trivial
  exact readNumber_wellFormed h

/-- what is read with some fuel is well formed, values, items and entries alike -/
structure ReadsWellFormed (limits : Limits) (fuel : Nat) : Prop where
  value : ∀ depth cs v rest, readValue limits depth fuel cs = .ok (v, rest) → v.WellFormed
  items : ∀ depth cs vs rest, readItems limits depth fuel cs = .ok (vs, rest) → ItemsWellFormed vs
  entries : ∀ soFar depth cs entries rest, (soFar.map Prod.fst).Nodup → EntriesWellFormed soFar →
    readEntries limits soFar depth fuel cs = .ok (entries, rest) →
      (entries.map Prod.fst).Nodup ∧ EntriesWellFormed entries

section Steps

variable {depth fuel : Nat} {vs : List Json} {soFar entries : List (String × Json)}

theorem readValue_wellFormed (ih : ReadsWellFormed limits fuel)
    (h : readValue limits depth (fuel + 1) cs = .ok (v, rest)) : v.WellFormed := by
  unfold readValue at h
  split at h
  · obtain ⟨⟨s, after⟩, -, h⟩ := bind_ok_iff.1 h
    cases h
    trivial
  · split at h
    · split at h
      · cases h
        trivial
      · obtain ⟨⟨vs, after⟩, hitems, h⟩ := bind_ok_iff.1 h
        cases h
        exact ih.items _ _ _ _ hitems
    · cases h
  · split at h
    · split at h
      · cases h
        exact ⟨List.nodup_nil, trivial⟩
      · obtain ⟨⟨entries, after⟩, hentries, h⟩ := bind_ok_iff.1 h
        cases h
        exact ih.entries [] _ _ _ _ List.nodup_nil trivial hentries
    · cases h
  · exact readScalar_wellFormed h

theorem readItems_wellFormed (ih : ReadsWellFormed limits fuel)
    (h : readItems limits depth (fuel + 1) cs = .ok (vs, rest)) : ItemsWellFormed vs := by
  unfold readItems at h
  obtain ⟨⟨value, after⟩, hvalue, h⟩ := bind_ok_iff.1 h
  have hv := ih.value _ _ _ _ hvalue
  dsimp only at h
  split at h
  · cases h
    exact ⟨hv, trivial⟩
  · obtain ⟨⟨values, after⟩, hvalues, h⟩ := bind_ok_iff.1 h
    cases h
    exact ⟨hv, ih.items _ _ _ _ hvalues⟩
  · cases h

theorem readEntries_wellFormed (ih : ReadsWellFormed limits fuel) (hkeys : (soFar.map Prod.fst).Nodup)
    (hsoFar : EntriesWellFormed soFar) (h : readEntries limits soFar depth (fuel + 1) cs = .ok (entries, rest)) :
    (entries.map Prod.fst).Nodup ∧ EntriesWellFormed entries := by
  unfold readEntries at h
  split at h
  · obtain ⟨⟨key, afterKey⟩, -, h⟩ := bind_ok_iff.1 h
    dsimp only at h
    split at h
    · obtain ⟨⟨value, afterValue⟩, hvalue, h⟩ := bind_ok_iff.1 h
      have hv := ih.value _ _ _ _ hvalue
      have hall : EntriesWellFormed (insertEntry key value soFar) := insertEntry_wellFormed hv hsoFar
      have hnew : ((insertEntry key value soFar).map Prod.fst).Nodup := nodup_keys_insertEntry hkeys
      dsimp only at h
      split at h
      · cases h
        exact ⟨hnew, hall⟩
      · exact ih.entries _ _ _ _ _ hnew hall h
      · cases h
    · cases h
  · cases h

end Steps

theorem readsWellFormed (limits : Limits) (fuel : Nat) : ReadsWellFormed limits fuel := by
  induction fuel with
  | zero =>
    refine ⟨fun depth cs v rest h => ?_, fun depth cs vs rest h => ?_, fun soFar depth cs entries rest _ _ h => ?_⟩
    · rw [readValue] at h
      cases h
    · rw [readItems] at h
      cases h
    · rw [readEntries] at h
      cases h
  | succ fuel ih =>
    exact ⟨fun _ _ _ _ => readValue_wellFormed ih, fun _ _ _ _ => readItems_wellFormed ih,
      fun _ _ _ _ _ => readEntries_wellFormed ih⟩

/-- **A value that was read is well formed.** -/
theorem readWithin_wellFormed {s : String} (h : readWithin limits s = .ok v) : v.WellFormed := by
  have hlocated {x : Except Failure Json} {locate : Failure → Unread} (hx : x.mapError locate = .ok v) : x = .ok v := by
    cases x with
    | error f => cases hx
    | ok w => exact congrArg _ (Except.ok.inj hx)
  have hread := hlocated h
  split at hread
  · obtain ⟨_, hfail, -⟩ := bind_ok_iff.1 hread
    cases hfail
  · obtain ⟨⟨value, rest⟩, hvalue, hend⟩ := bind_ok_iff.1 hread
    dsimp only at hend
    split at hend
    · obtain rfl := pure_ok_iff.1 hend
      exact (readsWellFormed _ _).value _ _ _ _ hvalue
    · cases hend

end Json

end AmpArticle
