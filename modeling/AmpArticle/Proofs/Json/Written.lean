import AmpArticle.Room

/-!
Values that cannot be written. Writing a value goes down to its whole numbers, and fails at one that is too long or
where there is no room for another level; which of the two comes first does not matter for whether it fails.

Results:
- `isSome_obstacle?_iff`: the values that have no text where there is room for so many levels;
- `writtenAt_of_not_unwritable`, `writtenAt_of_unwritable`: at a place all others have one, and these make writing fail.
-/

namespace AmpArticle.Json

/-- a value that cannot be written where there is room for so many levels below it -/
inductive Exceeds : Nat → Json → Prop where
  | digits {room : Nat} {n : Int} : isOverlong n = true → Exceeds room (.int n)
  | list {v : Json} {items : List Json} : Exceeds 0 (.list (v :: items))
  | object {e : String × Json} {entries : List (String × Json)} : Exceeds 0 (.object (e :: entries))
  | item {room : Nat} {v : Json} {items : List Json} : v ∈ items → Exceeds room v → Exceeds (room + 1) (.list items)
  | entry {room : Nat} {key : String} {v : Json} {entries : List (String × Json)} : (key, v) ∈ entries →
    Exceeds room v → Exceeds (room + 1) (.object entries)

theorem exceeds_int_iff {room : Nat} {n : Int} : Exceeds room (.int n) ↔ isOverlong n = true := by
  constructor
  · rintro ⟨h⟩
    exact h
  · exact .digits

@[simp] theorem not_exceeds_null {room : Nat} : ¬ Exceeds room .null := by rintro ⟨⟩

@[simp] theorem not_exceeds_bool {room : Nat} {b : Bool} : ¬ Exceeds room (.bool b) := by rintro ⟨⟩

@[simp] theorem not_exceeds_real {room : Nat} {x : Double} : ¬ Exceeds room (.real x) := by rintro ⟨⟩

@[simp] theorem not_exceeds_text {room : Nat} {s : String} : ¬ Exceeds room (.text s) := by rintro ⟨⟩

mutual
theorem isSome_obstacle?_iff (room : Nat) : ∀ v : Json, (obstacle? room v).isSome = true ↔ Exceeds room v
  | .int n => by
    rw [exceeds_int_iff]
    simp [obstacle?, isOverlong]
  | .list items => by
    rw [obstacle?]
    cases room with
    | zero =>
      cases items with
      | nil => exact iff_of_false (by simp [itemsObstacle?]) (by rintro ⟨⟩)
      | cons v items => exact iff_of_true rfl .list
    | succ room =>
      rw [isSome_itemsObstacle?_iff]
      constructor
      · rintro ⟨v, hv, hexceeds⟩
        exact .item hv hexceeds
      · rintro ⟨⟩
        exact ⟨_, ‹_›, ‹_›⟩
  | .object entries => by
    rw [obstacle?]
    cases room with
    | zero =>
      cases entries with
      | nil => exact iff_of_false (by simp [entriesObstacle?]) (by rintro ⟨⟩)
      | cons e entries => exact iff_of_true rfl .object
    | succ room =>
      rw [isSome_entriesObstacle?_iff]
      constructor
      · rintro ⟨key, v, hv, hexceeds⟩
        exact .entry hv hexceeds
      · rintro ⟨⟩
        exact ⟨_, _, ‹_›, ‹_›⟩
  | .null | .bool _ | .real _ | .text _ => iff_of_false (by simp [obstacle?]) (by simp)

theorem isSome_itemsObstacle?_iff (room : Nat) :
    ∀ items : List Json, (itemsObstacle? (room + 1) items).isSome = true ↔ ∃ v ∈ items, Exceeds room v
  | [] => by simp [itemsObstacle?]
  | v :: items => by
    rw [itemsObstacle?, Option.isSome_or, Bool.or_eq_true, isSome_obstacle?_iff room v,
      isSome_itemsObstacle?_iff room items]
    simp

theorem isSome_entriesObstacle?_iff (room : Nat) : ∀ entries : List (String × Json),
    (entriesObstacle? (room + 1) entries).isSome = true ↔ ∃ key v, (key, v) ∈ entries ∧ Exceeds room v
  | [] => by simp [entriesObstacle?]
  | (key, v) :: entries => by
    rw [entriesObstacle?, Option.isSome_or, Bool.or_eq_true, isSome_obstacle?_iff room v,
      isSome_entriesObstacle?_iff room entries]
    constructor
    · rintro (h | ⟨key', v', hmem, h⟩)
      · exact ⟨key, v, List.mem_cons_self, h⟩
      · exact ⟨key', v', List.mem_cons_of_mem _ hmem, h⟩
    · rintro ⟨key', v', hmem, h⟩
      rcases List.mem_cons.1 hmem with heq | hmem
      · obtain ⟨rfl, rfl⟩ := Prod.mk.inj heq
        exact .inl h
      · exact .inr ⟨key', v', hmem, h⟩
end

section Written

variable [Room] {place : Place} {v : Json} {text : Json → String}

/-- a value that cannot be written at a place -/
def Unwritable (place : Place) (v : Json) : Prop := v.Exceeds (Room.levels place)

theorem writtenAt_of_not_unwritable (h : ¬ v.Unwritable place) : v.writtenAt place text = .ok (text v) := by
  rw [Unwritable, ← isSome_obstacle?_iff, Bool.not_eq_true, Option.isSome_eq_false_iff, Option.isNone_iff_eq_none] at h
  rw [writtenAt, h]

theorem writtenAt_of_unwritable (text : Json → String) (h : v.Unwritable place) :
    ∃ limit, v.writtenAt place text = .error (.limit limit) := by
  obtain ⟨limit, hlimit⟩ := Option.isSome_iff_exists.1 ((isSome_obstacle?_iff _ _).2 h)
  exact ⟨limit, by rw [writtenAt, hlimit]⟩

end Written

end AmpArticle.Json
