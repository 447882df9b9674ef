import AmpArticle.Css.ClassNames
import AmpArticle.Proofs.Results
import AmpArticle.Proofs.Text.Pieces

/-!
Class names in sequences of sequences. What is written depends on the names alone, from left to right, as long as no
sequence is empty: the separator stands between any two of them, wherever a sequence begins or ends. Selectors and class
attributes are written by two recursions of the same form (`Writes`), so both have the names in the same order, and both
fail for the first value that is no name.

Results:
- `leaves`, `IsFull`: what stands at the ends of the branches, and trees without empty sequences;
- `Writes.leaves_eq`: such a tree is written as the row of its leaves is;
- `selector_tree`, `classAttribute_tree`: trees of names alone;
- `selector_other`, `classAttribute_other`: trees with another value.
-/

namespace AmpArticle.Css.ClassNames

open Text (joinWith)

/-! ## Leaves -/

/-- what stands at the end of a branch: a name, or a value that is none -/
inductive Leaf where
  | name (text : String)
  | other (value : Json)

/-- the value of a leaf that is no name -/
def Leaf.other? : Leaf → Option Json
  | .name _ => none
  | .other value => some value

mutual
/-- the leaves from left to right -/
def leaves : ClassNames → List Leaf
  | .name text => [.name text]
  | .many items => leavesOf items
  | .other value => [.other value]

/-- the leaves of the items from left to right -/
def leavesOf : List ClassNames → List Leaf
  | [] => []
  | item :: rest => leaves item ++ leavesOf rest
end

mutual
/-- no sequence is empty, at any depth -/
def IsFull : ClassNames → Prop
  | .name _ => True
  | .many items => items ≠ [] ∧ AreFull items
  | .other _ => True

/-- no sequence in the items is empty -/
def AreFull : List ClassNames → Prop
  | [] => True
  | item :: rest => IsFull item ∧ AreFull rest
end

/-! ## Writing -/

/-- a writer of class names: it writes leaves one by one, and puts a separator between the items of a sequence -/
structure Writes (separator : String) (leaf : Leaf → Except Fault String) (write : ClassNames → Except Fault String) :
    Prop where
  name : ∀ text, write (.name text) = leaf (.name text)
  many : ∀ items, write (.many items) = do return joinWith separator (← items.mapM write)
  other : ∀ value, write (.other value) = leaf (.other value)

/-- a row of leaves as it is written -/
def row (separator : String) (leaf : Leaf → Except Fault String) (ls : List Leaf) : Except Fault String := do
  return joinWith separator (← ls.mapM leaf)

section Rows

variable {separator : String} {leaf : Leaf → Except Fault String}

theorem row_single (l : Leaf) : row separator leaf [l] = leaf l := by
  rw [row, List.mapM_cons]
  cases leaf l <;> rfl

/-- two rows are written one behind the other -/
theorem row_append {ls ls' : List Leaf} (h : ls ≠ []) (h' : ls' ≠ []) : row separator leaf (ls ++ ls') = do
    return (← row separator leaf ls) ++ separator ++ (← row separator leaf ls') := by
  have hlength {ls : List Leaf} {ss : List String} (h : ls ≠ []) (hss : ls.mapM leaf = .ok ss) : ss ≠ [] := by
    rintro rfl
    exact h (List.forall₂_nil_right_iff.1 (mapM_ok_iff.1 hss))
  rw [row, row, row, List.mapM_append]
  cases hss : ls.mapM leaf with
  | error fault => rfl
  | ok ss =>
    cases hss' : ls'.mapM leaf with
    | error fault => rfl
    | ok ss' => exact congrArg Except.ok (Text.joinWith_append_of_ne_nil separator (hlength h hss) (hlength h' hss'))

/-- a row of names is written name by name -/
theorem row_names {f : String → String} (hleaf : ∀ text, leaf (.name text) = .ok (f text)) (texts : List String) :
    row separator leaf (texts.map .name) = .ok (joinWith separator (texts.map f)) := by
  have hall : (texts.map Leaf.name).mapM leaf = .ok (texts.map f) := by
    rw [mapM_ok_iff, List.forall₂_map_left_iff, List.forall₂_map_right_iff, List.forall₂_same]
    exact fun text _ => hleaf text
  rw [row, hall]
  rfl

/-- a row with another value fails for the first such value -/
theorem row_other {f : String → String} {g : Json → Fault} (hleaf : ∀ text, leaf (.name text) = .ok (f text))
    (hother : ∀ value, leaf (.other value) = .error (g value)) {ls : List Leaf} {value : Json}
    (h : ls.findSome? Leaf.other? = some value) : row separator leaf ls = .error (g value) := by
  have hall : ls.mapM leaf = .error (g value) := by
    induction ls with
    | nil => cases h
    | cons l ls ih =>
      rw [List.mapM_cons]
      cases l with
      | name text =>
        rw [hleaf, ih h]
        rfl
      | other value' =>
        obtain rfl : value' = value := Option.some.inj h
        rw [hother]
        rfl
  rw [row, hall]
  rfl

end Rows

theorem leavesOf_cons (item : ClassNames) (rest : List ClassNames) :
    leavesOf (item :: rest) = leaves item ++ leavesOf rest := by rw [leavesOf]

mutual
/-- a tree without empty sequences has a leaf -/
theorem leaves_ne_nil : ∀ names : ClassNames, names.IsFull → names.leaves ≠ []
  | .name _, _ => by simp [leaves]
  | .other _, _ => by simp [leaves]
  | .many items, h => by
    rw [leaves]
    exact leavesOf_ne_nil items h.1 h.2

theorem leavesOf_ne_nil : ∀ items : List ClassNames, items ≠ [] → AreFull items → leavesOf items ≠ []
  | [], hne, _ => absurd rfl hne
  | item :: rest, _, h => by
    rw [leavesOf]
    exact List.append_ne_nil_of_left_ne_nil (leaves_ne_nil item h.1) _
end

section Writers

variable {separator : String} {leaf : Leaf → Except Fault String} {write : ClassNames → Except Fault String}

mutual
/-- **A tree without empty sequences** is written as the row of its leaves is. -/
theorem Writes.leaves_eq (hw : Writes separator leaf write) :
    ∀ names : ClassNames, names.IsFull → write names = row separator leaf names.leaves
  | .name text, _ => by rw [leaves, row_single, hw.name]
  | .other value, _ => by rw [leaves, row_single, hw.other]
  | .many items, h => by
    rw [leaves, hw.many]
    exact hw.leavesOf_eq items h.1 h.2

theorem Writes.leavesOf_eq (hw : Writes separator leaf write) : ∀ items : List ClassNames, items ≠ [] →
    AreFull items → (do return joinWith separator (← items.mapM write)) = row separator leaf (leavesOf items)
  | [], hne, _ => absurd rfl hne
  | [item], _, h => by
    rw [leavesOf, leavesOf, List.append_nil, ← hw.leaves_eq item h.1, List.mapM_cons]
    cases write item <;> rfl
  | item :: second :: rest, _, h => by
    have hrest := hw.leavesOf_eq (second :: rest) (List.cons_ne_nil _ _) h.2
    rw [leavesOf_cons, row_append (leaves_ne_nil item h.1) (leavesOf_ne_nil _ (List.cons_ne_nil _ _) h.2), ← hrest,
      ← hw.leaves_eq item h.1, List.mapM_cons]
    cases write item with
    | error fault => rfl
    | ok text =>
      cases htexts : (second :: rest).mapM write with
      | error fault => rfl
      | ok texts =>
        have hne : texts ≠ [] := by
          rintro rfl
          exact List.cons_ne_nil _ _ (List.forall₂_nil_right_iff.1 (mapM_ok_iff.1 htexts))
        exact congrArg Except.ok (Text.joinWith_cons_of_ne_nil separator text hne)
end

end Writers

/-! ## Selectors and class attributes -/

variable {p : String} {names : ClassNames} {texts : List String} {value : Json}

/-- a leaf in a selector -/
def leafSelector (p : String) : Leaf → Except Fault String
  | .name text => .ok ("." ++ p ++ text)
  | .other value => .error (.selectorKind value.kindName)

/-- a leaf in a class attribute -/
def leafClass (p : String) : Leaf → Except Fault String
  | .name text => .ok (p ++ text)
  | .other value => .error (.notIterable value.kindName)

theorem selectors_eq (p : String) (items : List ClassNames) : selectors p items = items.mapM (selector p) := by
  induction items with
  | nil => rfl
  | cons item rest ih =>
    rw [selectors, ih, List.mapM_cons]

theorem classAttributes_eq (p : String) (items : List ClassNames) :
    classAttributes p items = items.mapM (classAttribute p) := by
  induction items with
  | nil => rfl
  | cons item rest ih =>
    rw [classAttributes, ih, List.mapM_cons]

theorem selector_writes (p : String) : Writes ", " (leafSelector p) (selector p) where
  name text := by rw [selector, leafSelector]
  many items := by rw [selector, selectors_eq]
  other value := by rw [selector, leafSelector]

theorem classAttribute_writes (p : String) : Writes " " (leafClass p) (classAttribute p) where
  name text := by rw [classAttribute, leafClass]
  many items := by rw [classAttribute, classAttributes_eq]
  other value := by rw [classAttribute, leafClass]

/-- names one behind the other -/
theorem classAttributes_names (p : String) (texts : List String) :
    classAttributes p (texts.map .name) = .ok (texts.map (p ++ ·)) := by
  rw [classAttributes_eq, mapM_ok_iff, List.forall₂_map_left_iff, List.forall₂_map_right_iff, List.forall₂_same]
  exact fun text _ => (classAttribute_writes p).name text

theorem selector_tree (hfull : names.IsFull) (h : names.leaves = texts.map .name) :
    names.selector p = .ok (joinWith ", " (texts.map ("." ++ p ++ ·))) := by
  rw [(selector_writes p).leaves_eq names hfull, h]
  exact row_names (fun _ => rfl) texts

theorem classAttribute_tree (hfull : names.IsFull) (h : names.leaves = texts.map .name) :
    names.classAttribute p = .ok (joinWith " " (texts.map (p ++ ·))) := by
  rw [(classAttribute_writes p).leaves_eq names hfull, h]
  exact row_names (fun _ => rfl) texts

theorem selector_other (hfull : names.IsFull) (h : names.leaves.findSome? Leaf.other? = some value) :
    names.selector p = .error (.selectorKind value.kindName) := by
  rw [(selector_writes p).leaves_eq names hfull]
  exact row_other (g := fun v => .selectorKind v.kindName) (fun _ => rfl) (fun _ => rfl) h

theorem classAttribute_other (hfull : names.IsFull) (h : names.leaves.findSome? Leaf.other? = some value) :
    names.classAttribute p = .error (.notIterable value.kindName) := by
  rw [(classAttribute_writes p).leaves_eq names hfull]
  exact row_other (g := fun v => .notIterable v.kindName) (fun _ => rfl) (fun _ => rfl) h

end AmpArticle.Css.ClassNames
