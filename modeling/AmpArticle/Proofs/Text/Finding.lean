import AmpArticle.Text.Blank
import Mathlib.Tactic

/-!
Finding a text in another one.

Results:
- `dropStart?_eq_some`, `dropStart?_isSome_iff`: a text is dropped from the front of another when it is there;
- `append_cons_unique`: what stands in front of the first occurrence of a character, and behind it, is determined;
- `infix_append_cons`: a text that lacks a character is found on one side of it, never across;
- `before_eq_iff`: what stands in front of a mark is what was put there, exactly when the mark is not found in it.
-/

namespace AmpArticle.Text

/-- what holds of all characters of a list is decided along the list, never by going through all characters -/
instance decidableForallMem (cs : List Char) (p : Char → Prop) [DecidablePred p] : Decidable (∀ c ∈ cs, p c) :=
  List.decidableBAll p cs

variable {a : Char} {m : List Char}

/-! ## At the front -/

theorem dropStart?_eq_some {w cs rest : List Char} (h : dropStart? w cs = some rest) : cs = w ++ rest := by
  induction w generalizing cs with
  | nil => exact Option.some.inj h
  | cons c w ih =>
    cases cs with
    | nil => cases h
    | cons d cs =>
      rw [dropStart?] at h
      split_ifs at h with hc
      rw [hc, List.cons_append, ← ih h]

theorem dropStart?_isSome_iff {w cs : List Char} : (dropStart? w cs).isSome = true ↔ w <+: cs := by
  induction w generalizing cs with
  | nil => simp [dropStart?]
  | cons c w ih =>
    cases cs with
    | nil => simp [dropStart?]
    | cons d cs =>
      rw [dropStart?, List.cons_prefix_cons]
      split_ifs with hc
      · simp [ih, hc]
      · simp [hc]

theorem dropStart?_append_cons (ha : a ∉ m) (xs ys : List Char) :
    dropStart? m (xs ++ a :: ys) = (dropStart? m xs).map (· ++ a :: ys) := by
  induction m generalizing xs with
  | nil => cases xs <;> rfl
  | cons c m ih =>
    rw [List.mem_cons, not_or] at ha
    cases xs with
    | nil => exact if_neg (Ne.symm ha.1)
    | cons x xs =>
      simp only [List.cons_append, dropStart?, ih ha.2]
      split_ifs <;> rfl

/-- a text that lacks a character is at the front of another just when it is in front of that character -/
theorem prefix_append_cons_iff (ha : a ∉ m) (xs ys : List Char) : m <+: xs ++ a :: ys ↔ m <+: xs := by
  rw [← dropStart?_isSome_iff, dropStart?_append_cons ha, Option.isSome_map, dropStart?_isSome_iff]

/-- what stands in front of the first occurrence of a character is determined -/
theorem append_cons_unique {ds es fs gs : List Char} (hds : a ∉ ds) (hes : a ∉ es) (h : ds ++ a :: fs = es ++ a :: gs) :
    ds = es ∧ fs = gs := by
  induction ds generalizing es with
  | nil =>
    cases es with
    | nil => exact ⟨rfl, (List.cons.inj h).2⟩
    | cons e es => exact absurd (List.cons.inj h).1 fun heq => hes (heq ▸ List.mem_cons_self)
  | cons d ds ih =>
    cases es with
    | nil => exact absurd (List.cons.inj h).1 fun heq => hds (heq ▸ List.mem_cons_self)
    | cons e es =>
      obtain ⟨rfl, hrest⟩ := List.cons.inj h
      rw [List.mem_cons, not_or] at hds hes
      obtain ⟨rfl, rfl⟩ := ih hds.2 hes.2 hrest
      exact ⟨rfl, rfl⟩

/-! ## Anywhere -/

/-- a text that is not empty and lacks a character does not begin with it -/
theorem not_prefix_cons {w ys : List Char} (hw : w ≠ []) (ha : a ∉ w) : ¬ w <+: a :: ys := by
  intro h
  obtain ⟨c, w, rfl⟩ := List.exists_cons_of_ne_nil hw
  exact ha ((List.cons_prefix_cons.1 h).1 ▸ List.mem_cons_self)

/-- a text that has a character at most at its front is found on one side of where that character stands -/
theorem infix_cons_append {d : Char} (ha : a ∉ m) (xs ys : List Char) :
    d :: m <:+: xs ++ a :: ys ↔ d :: m <:+: xs ∨ d :: m <:+: a :: ys := by
  rw [List.infix_append_iff_ne_nil]
  constructor
  · rintro (h | h | ⟨w, w', hw, hw', hsplit, -, hprefix⟩)
    · exact .inl h
    · exact .inr h
    · obtain ⟨c, w, rfl⟩ := List.exists_cons_of_ne_nil hw
      have hm : m = w ++ w' := (List.cons.inj hsplit).2
      exact absurd hprefix (not_prefix_cons hw' fun h => ha (hm ▸ List.mem_append_right _ h))
  · rintro (h | h)
    · exact .inl h
    · exact .inr (.inl h)

/-- **A text that lacks a character is found on one side of it**, never across. -/
theorem infix_append_cons (hm : m ≠ []) (ha : a ∉ m) (xs ys : List Char) :
    m <:+: xs ++ a :: ys ↔ m <:+: xs ∨ m <:+: ys := by
  obtain ⟨d, w, rfl⟩ := List.exists_cons_of_ne_nil hm
  rw [infix_cons_append fun h => ha (List.mem_cons_of_mem d h), List.infix_cons_iff (a := a)]
  exact or_congr_right (or_iff_right (not_prefix_cons hm ha))

/-- a text is found only behind what lacks its first character -/
theorem infix_append_of_notMem {xs : List Char} (ha : a ∉ xs) (ys : List Char) :
    a :: m <:+: xs ++ ys ↔ a :: m <:+: ys := by
  induction xs with
  | nil => rfl
  | cons x xs ih =>
    rw [List.mem_cons, not_or] at ha
    rw [List.cons_append, List.infix_cons_iff, ih ha.2]
    exact or_iff_right fun h => ha.1 (List.cons_prefix_cons.1 h).1

/-! ## In front of a mark -/

/-- what a text holds in front of the first place where a mark is found -/
def before (m : List Char) : List Char → List Char
  | [] => []
  | c :: cs => if m <+: c :: cs then [] else c :: before m cs

theorem before_prefix (m cs : List Char) : before m cs <+: cs := by
  induction cs with
  | nil => exact List.prefix_rfl
  | cons c cs ih =>
    rw [before]
    split_ifs
    · exact List.nil_prefix
    · exact List.cons_prefix_cons.2 ⟨rfl, ih⟩

theorem not_infix_before (hm : m ≠ []) (cs : List Char) : ¬ m <:+: before m cs := by
  induction cs with
  | nil => exact fun h => hm (List.infix_nil.1 h)
  | cons c cs ih =>
    rw [before]
    split_ifs with hfound
    · exact fun h => hm (List.infix_nil.1 h)
    · rintro h
      rcases List.infix_cons_iff.1 h with h | h
      · exact hfound (h.trans (List.cons_prefix_cons.2 ⟨rfl, before_prefix m cs⟩))
      · exact ih h

theorem before_append (ha : a ∉ m) {xs : List Char} (h : ¬ a :: m <:+: xs) (ys : List Char) :
    before (a :: m) (xs ++ a :: (m ++ ys)) = xs := by
  induction xs with
  | nil => exact if_pos (List.prefix_append (a :: m) ys)
  | cons x xs ih =>
    rw [List.cons_append, before, if_neg, ih fun hxs => h (List.infix_cons hxs)]
    intro hfound
    obtain ⟨rfl, hrest⟩ := List.cons_prefix_cons.1 hfound
    rcases List.prefix_or_prefix_of_prefix hrest (List.prefix_append xs _) with hm | hxs
    · exact h (List.cons_prefix_cons.2 ⟨rfl, hm⟩).isInfix
    · -- the mark would hold its first character a second time
      obtain ⟨w, rfl⟩ := hxs
      rw [List.prefix_append_right_inj] at hrest
      rw [List.mem_append, not_or] at ha
      cases w with
      | nil => exact h (by simp)
      | cons c w => exact not_prefix_cons (List.cons_ne_nil c w) ha.2 hrest

/-- **What stands in front of a mark** is what was put there, exactly when the mark is not found in it. -/
theorem before_eq_iff (ha : a ∉ m) (xs ys : List Char) :
    before (a :: m) (xs ++ a :: (m ++ ys)) = xs ↔ ¬ a :: m <:+: xs := by
  constructor
  · intro h
    exact h ▸ not_infix_before (List.cons_ne_nil a m) _
  · intro h
    exact before_append ha h ys

end AmpArticle.Text
