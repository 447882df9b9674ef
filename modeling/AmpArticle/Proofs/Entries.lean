import AmpArticle.Json.Basic
import Mathlib.Tactic.SplitIfs

/-!
Entries under keys: what looking a key up has to do with the entries there are.
-/

namespace AmpArticle

variable {α β : Type} [DecidableEq α] {key other : α} {value : β} {entries : List (α × β)}

theorem mem_of_lookup? (h : lookup? key entries = some value) : (key, value) ∈ entries := by
  induction entries with
  | nil => cases h
  | cons e entries ih =>
    obtain ⟨k, v⟩ := e
    simp only [lookup?] at h
    split_ifs at h with hk
    · cases h
      rw [hk]
      exact List.mem_cons_self
    · exact List.mem_cons_of_mem _ (ih h)

theorem lookup?_single (key : α) (value : β) : lookup? key [(key, value)] = some value := if_pos rfl

theorem lookup?_single_of_ne (h : other ≠ key) : lookup? key [(other, value)] = none := if_neg h

theorem lookup?_append (xs ys : List (α × β)) : lookup? key (xs ++ ys) = (lookup? key xs).or (lookup? key ys) := by
  induction xs with
  | nil => rfl
  | cons x xs ih =>
    rw [List.cons_append, lookup?, lookup?, ih]
    split
    · rfl
    · rfl

/-- entries with keys apart are looked up in any order -/
theorem lookup?_perm {entries' : List (α × β)} (hkeys : (entries.map Prod.fst).Nodup) (h : entries.Perm entries') :
    lookup? key entries = lookup? key entries' := by
  induction h with
  | nil => rfl
  | cons e h ih =>
    obtain ⟨k, v⟩ := e
    rw [lookup?, lookup?, ih (List.nodup_cons.1 hkeys).2]
  | swap e e' entries =>
    obtain ⟨k, v⟩ := e
    obtain ⟨k', v'⟩ := e'
    have hne : k' ≠ k := fun heq => (List.nodup_cons.1 hkeys).1 (heq ▸ List.mem_cons_self)
    simp only [lookup?]
    split_ifs with hk hk'
    · exact absurd (hk.trans hk'.symm) hne
    · rfl
    · rfl
    · rfl
  | trans h _ ih ih' => rw [ih hkeys, ih' ((h.map Prod.fst).nodup_iff.1 hkeys)]

theorem lookup?_insertEntry (key : α) (value : β) (entries : List (α × β)) :
    lookup? key (insertEntry key value entries) = some value := by
  induction entries with
  | nil => exact lookup?_single key value
  | cons e entries ih =>
    obtain ⟨k, v⟩ := e
    rw [insertEntry]
    split_ifs with hk
    · exact if_pos hk
    · rw [lookup?, if_neg hk, ih]

theorem lookup?_insertEntry_of_ne (h : other ≠ key) (value : β) (entries : List (α × β)) :
    lookup? other (insertEntry key value entries) = lookup? other entries := by
  induction entries with
  | nil => exact lookup?_single_of_ne h.symm
  | cons e entries ih =>
    obtain ⟨k, v⟩ := e
    rw [insertEntry]
    split_ifs with hk
    · rw [lookup?, lookup?, if_neg (hk ▸ h.symm), if_neg (hk ▸ h.symm)]
    · rw [lookup?, lookup?, ih]

theorem mem_keys_insertEntry : other ∈ (insertEntry key value entries).map Prod.fst ↔
    other = key ∨ other ∈ entries.map Prod.fst := by
  induction entries with
  | nil => simp [insertEntry]
  | cons e entries ih =>
    obtain ⟨k, v⟩ := e
    rw [insertEntry]
    split_ifs with hk
    · simp [hk]
    · rw [List.map_cons, List.mem_cons, ih, List.map_cons, List.mem_cons, or_left_comm]

/-- setting an entry keeps the keys apart -/
theorem nodup_keys_insertEntry (h : (entries.map Prod.fst).Nodup) :
    ((insertEntry key value entries).map Prod.fst).Nodup := by
  induction entries with
  | nil => simp [insertEntry]
  | cons e entries ih =>
    obtain ⟨k, v⟩ := e
    rw [List.map_cons, List.nodup_cons] at h
    rw [insertEntry]
    split_ifs with hk
    · exact List.nodup_cons.2 h
    · refine List.nodup_cons.2 ⟨fun hmem => ?_, ih h.2⟩
      rcases mem_keys_insertEntry.1 hmem with hkey | hmem
      · exact hk hkey
      · exact h.1 hmem

theorem insertEntry_new (h : key ∉ entries.map Prod.fst) : insertEntry key value entries = entries ++ [(key, value)] := by
  induction entries with
  | nil => rfl
  | cons e entries ih =>
    obtain ⟨k, v⟩ := e
    rw [List.map_cons, List.mem_cons, not_or] at h
    rw [insertEntry, if_neg (Ne.symm h.1), ih h.2, List.cons_append]

end AmpArticle
