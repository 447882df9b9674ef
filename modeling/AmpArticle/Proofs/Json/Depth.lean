import AmpArticle.Proofs.Json.RoundTrip

/-!
Texts that are nested too deep. A reader gives up at the first list for which it has no room, whatever follows, so that
there are values that it cannot read even from their own text.

Results:
- `readValue_opened`: lists that are opened one inside the other;
- `readWithin_entry_nested`: such lists as a value in the text of an object.
-/

namespace AmpArticle.Json

/-- lists one inside the other, with so many around the last one -/
def nested : Nat → Json
  | 0 => .list []
  | n + 1 => .list [nested n]

theorem nested_wellFormed (n : Nat) : (nested n).WellFormed := by
  induction n with
  | zero => trivial
  | succ n ih => exact ⟨ih, trivial⟩

theorem write_nested (n : Nat) :
    (nested n).write.toList = List.replicate (n + 1) '[' ++ List.replicate (n + 1) ']' := by
  induction n with
  | zero => rfl
  | succ n ih =>
    rw [nested, write_list, itemsText_single, ih, List.replicate_succ (n := n + 1), List.replicate_succ' (n := n + 1),
      List.append_assoc, List.cons_append]

variable {limits : Limits} {depth fuel n : Nat} {key : String} {after : List Char}

/-- **Lists that are opened one inside the other** are given up where there is no room for all of them. -/
theorem readValue_opened (hlevels : limits.levels (depth + n + 1) = false) (hfuel : 2 * n < fuel) :
    readValue limits depth fuel (List.replicate (n + 1) '[' ++ after) = .error (.limit .listRead) := by
  induction n generalizing depth fuel with
  | zero =>
    obtain ⟨fuel, rfl⟩ : ∃ k, fuel = k + 1 := ⟨fuel - 1, by omega⟩
    exact if_neg (Bool.eq_false_iff.1 hlevels)
  | succ n ih =>
    obtain ⟨fuel, rfl⟩ : ∃ k, fuel = k + 2 := ⟨fuel - 2, by omega⟩
    rw [List.replicate_succ, List.cons_append]
    by_cases hlevel : limits.levels (depth + 1) = true
    · have hopen : Opens (List.replicate (n + 1) '[' ++ after) := ⟨'[', _, rfl, rfl, by decide, by decide⟩
      rw [show depth + (n + 1) + 1 = depth + 1 + n + 1 by omega] at hlevels
      rw [readValue_list hlevel hopen, readItems, ih hlevels (by omega)]
      rfl
    · exact if_neg hlevel

theorem readValue_entry_nested (key : String) (after : List Char) (hlevel : limits.levels 1 = true)
    (hlevels : limits.levels (n + 2) = false) (hfuel : 2 * n + 2 < fuel) :
    readValue limits 0 fuel ('\x7b' :: '"' :: (entryText key (nested n) ++ after)) = .error (.limit .listRead) := by
  obtain ⟨fuel, rfl⟩ : ∃ k, fuel = k + 2 := ⟨fuel - 2, by omega⟩
  rw [show n + 2 = 1 + n + 1 by omega] at hlevels
  rw [readValue_object hlevel, readEntries_entry (opens_write (nested_wellFormed n)), write_nested, List.append_assoc,
    readValue_opened hlevels (by omega)]
  rfl

/-- **An object with such lists** is not read, where there is room for the object but not for all the lists. -/
theorem readWithin_entry_nested (hlevel : limits.levels 1 = true) (hlevels : limits.levels (n + 2) = false) :
    readWithin limits (write (.object [(key, nested n)])) = .error (.beyond .listRead) := by
  have hwrite : (write (.object [(key, nested n)])).toList =
      '\x7b' :: '"' :: (entryText key (nested n) ++ ['\x7d']) := by
    rw [write_object, entriesText_single]
    rfl
  have hlength := length_entryText key (nested n)
  rw [write_nested, List.length_append, List.length_replicate, List.length_replicate] at hlength
  generalize write (.object [(key, nested n)]) = s at hwrite ⊢
  have hfuel : 2 * n + 2 < 2 * s.toList.length + 2 := by
    rw [hwrite]
    simp only [List.length_cons, List.length_append]
    omega
  have hvalue := readValue_entry_nested key ['\x7d'] hlevel hlevels hfuel
  have hspace : ('\x7b' :: '"' :: (entryText key (nested n) ++ ['\x7d'])).dropWhile isSpace =
      '\x7b' :: '"' :: (entryText key (nested n) ++ ['\x7d']) := List.dropWhile_cons_of_neg (by decide)
  simp only [readWithin, hwrite, hspace] at hvalue ⊢
  rw [hvalue]
  rfl

end AmpArticle.Json
