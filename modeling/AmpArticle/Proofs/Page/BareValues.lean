import AmpArticle.Proofs.Page.Serialized

/-!
Empty attributes written bare. The values of four attributes should be dropped when they are empty, and all else should
be written as it is. But the values are dropped from the finished text, so an empty value that a text, a comment, a
name or another value spells out is dropped as well.

Results:
- `writeNode_squeezed`: where an element is written, exactly its own empty attributes get bare unless something else
  can be dropped;
- `serialize_eq_iff`: a page is the tree with these attributes bare, exactly when nothing more can be dropped from it;
- `serialize_spelled`: a text that spells an empty value out is changed.
-/

namespace AmpArticle.Markup

/-- an attribute of the given names left without its value when that is empty -/
def Attribute.bared (names : List String) (a : Attribute) : Attribute :=
  if a.value = some "" ∧ a.name ∈ names then ⟨a.name, none⟩ else a

namespace Node

mutual
/-- the tree with the empty attributes of the given names left without a value -/
def bared (names : List String) : Node → Node
  | .text content => .text content
  | .comment content => .comment content
  | .element tag mark attributes children =>
    .element tag mark (attributes.map (Attribute.bared names)) (baredAll names children)

/-- `bared` on each node -/
def baredAll (names : List String) : List Node → List Node
  | [] => []
  | n :: rest => n.bared names :: baredAll names rest
end

end Node

/-- the element with the empty attributes of the given names left without a value, and so all below it -/
def Element.bared (names : List String) (e : Element) : Element :=
  ⟨e.tag, e.mark, e.attributes.map (Attribute.bared names), Node.baredAll names e.children⟩

end AmpArticle.Markup

namespace AmpArticle.Page

open Markup (Attribute Element Node)

/-! ## Texts that are squeezed to others -/

/-- a text that is squeezed to another one exactly when nothing can be dropped from that, whatever stands in front of
both -/
structure Squeezed (xs ys : List Char) : Prop where
  length_le (w : List Char) : (squeeze (w ++ xs)).length ≤ (w ++ ys).length
  eq_iff (w : List Char) : squeeze (w ++ xs) = w ++ ys ↔ ¬ Droppable (w ++ ys)

namespace Squeezed

variable {xs ys : List Char}

theorem nil : Squeezed [] [] :=
  ⟨fun w => by simpa using length_squeeze_le w, fun w => by simpa using squeeze_eq_self_iff⟩

theorem prepend (h : Squeezed xs ys) (cs : List Char) : Squeezed (cs ++ xs) (cs ++ ys) where
  length_le w := by simpa only [List.append_assoc] using h.length_le (w ++ cs)
  eq_iff w := by simpa only [List.append_assoc] using h.eq_iff (w ++ cs)

theorem bareAttribute?_name {name : String} (hname : name ∈ bareNames) (xs : List Char) :
    bareAttribute? (name.toList ++ emptyValue ++ xs) = some (name.toList, xs) := by
  simp only [bareNames, List.mem_cons, List.not_mem_nil, or_false] at hname
  rcases hname with rfl | rfl | rfl | rfl
  all_goals rfl

theorem not_droppable_name {name : String} (hname : name ∈ bareNames) : ¬ Droppable (' ' :: name.toList) := by
  have hnames : ∀ name ∈ bareNames, ¬ emptyValue <:+: ' ' :: name.toList := by decide
  exact not_droppable_of_absent (hnames name hname)

/-- an empty attribute gets bare when what follows its name is no part of it -/
theorem bare {name : String} {c : Char} (hname : name ∈ bareNames) (hc : Outside c) (h : Squeezed xs (c :: ys)) :
    Squeezed (' ' :: (name.toList ++ emptyValue) ++ xs) (' ' :: name.toList ++ c :: ys) := by
  have hsqueeze (w : List Char) : squeeze (w ++ (' ' :: (name.toList ++ emptyValue) ++ xs)) =
      squeeze w ++ (' ' :: name.toList ++ squeeze xs) := by
    rw [List.cons_append, squeeze_append outside_space, squeeze_cons, if_pos (by decide), squeezeBlank,
      bareAttribute?_name hname]
  have hlength : (squeeze xs).length ≤ (c :: ys).length := h.length_le []
  refine ⟨fun w => ?_, fun w => ?_⟩
  · have hw := length_squeeze_le w
    rw [hsqueeze]
    simp only [List.length_append, List.length_cons] at hlength ⊢
    omega
  · have hdroppable : Droppable (w ++ (' ' :: name.toList ++ c :: ys)) ↔ Droppable w ∨ Droppable (c :: ys) := by
      rw [List.cons_append, droppable_append outside_space, ← List.cons_append, droppable_append hc]
      exact or_congr_right (or_iff_right (not_droppable_name hname))
    have hxs : squeeze xs = c :: ys ↔ ¬ Droppable (c :: ys) := h.eq_iff []
    rw [hsqueeze, hdroppable, not_or, ← squeeze_eq_self_iff, ← hxs]
    constructor
    · intro heq
      -- neither part can make up for a character that the other one loses
      have hw := length_squeeze_le w
      have hwhole := congrArg List.length heq
      simp only [List.length_append] at hwhole
      obtain ⟨hfront, hrest⟩ := List.append_inj heq (by omega)
      exact ⟨hfront, List.append_cancel_left hrest⟩
    · rintro ⟨hfront, hrest⟩
      rw [hfront, hrest]

end Squeezed

/-! ## Written trees -/

theorem writeAttribute_space (tag : String) (a : Attribute) :
    ∃ cs, (Markup.writeAttribute tag a).toList = ' ' :: cs := by
  unfold Markup.writeAttribute
  split
  · exact ⟨_, by rw [String.toList_append]; rfl⟩
  · split_ifs
    · exact ⟨_, by rw [String.toList_append]; rfl⟩
    · exact ⟨_, by simp only [String.toList_append]; rfl⟩
    · exact ⟨_, by simp only [String.toList_append]; rfl⟩

/-- an empty attribute of one of the names is written as what is found -/
theorem writeAttribute_empty {name : String} (hname : name ∈ bareNames) (tag : String) :
    (Markup.writeAttribute tag ⟨name, some ""⟩).toList = ' ' :: (name.toList ++ emptyValue) := by
  have hlower : ∀ name ∈ bareNames, name.map Char.toLower = name := by decide +kernel
  have hboolean : ∀ name ∈ bareNames, name ∉ Markup.booleanAttributes := by decide +kernel
  have haddress : ∀ name ∈ bareNames, name ∉ ["href", "action", "src", "name"] := by decide +kernel
  have hquoted : (Markup.quoteValue "").toList = ['"', '"'] := by decide +kernel
  have hnot := haddress name hname
  simp only [List.mem_cons, List.not_mem_nil, or_false, not_or] at hnot
  simp [Markup.writeAttribute, Markup.isAddress, hlower name hname, hboolean name hname, hnot, hquoted, emptyValue]

/-- the attributes of an element as they are written -/
def attributesText (tag : String) (attributes : List Attribute) : List Char :=
  attributes.flatMap fun a => (Markup.writeAttribute tag a).toList

theorem writeStart_eq (tag : String) (attributes : List Attribute) :
    (Markup.writeStart tag attributes).toList = '<' :: tag.toList ++ (attributesText tag attributes ++ ['>']) := by
  have hfold (s : String) : (attributes.foldl (fun s a => s ++ Markup.writeAttribute tag a) s).toList =
      s.toList ++ attributesText tag attributes := by
    induction attributes generalizing s with
    | nil => simp [attributesText]
    | cons a attributes ih => simp [ih, attributesText]
  simp [Markup.writeStart, hfold]

theorem attributesText_head (tag : String) (attributes : List Attribute) (cs : List Char) :
    ∃ c rest, attributesText tag attributes ++ '>' :: cs = c :: rest ∧ Outside c := by
  cases attributes with
  | nil => exact ⟨'>', cs, rfl, outside_close⟩
  | cons a attributes =>
    obtain ⟨front, hfront⟩ := writeAttribute_space tag a
    exact ⟨' ', _, by rw [attributesText, List.flatMap_cons, hfront]; rfl, outside_space⟩

theorem attributes_squeezed (tag : String) (attributes : List Attribute) {xs ys : List Char} (h : Squeezed xs ys) :
    Squeezed (attributesText tag attributes ++ '>' :: xs)
      (attributesText tag (attributes.map (Attribute.bared bareNames)) ++ '>' :: ys) := by
  induction attributes with
  | nil => exact h.prepend ['>']
  | cons a attributes ih =>
    simp only [attributesText, List.map_cons, List.flatMap_cons, List.append_assoc] at ih ⊢
    by_cases hbare : a.value = some "" ∧ a.name ∈ bareNames
    · obtain ⟨name, value⟩ := a
      obtain ⟨rfl, hname⟩ := hbare
      have hbared : Attribute.bared bareNames ⟨name, some ""⟩ = ⟨name, none⟩ := if_pos ⟨rfl, hname⟩
      have hwritten : (Markup.writeAttribute tag ⟨name, none⟩).toList = ' ' :: name.toList := by
        simp [Markup.writeAttribute]
      obtain ⟨c, rest, hhead, hc⟩ := attributesText_head tag (attributes.map (Attribute.bared bareNames)) ys
      rw [attributesText] at hhead
      rw [hhead] at ih ⊢
      rw [hbared, hwritten, writeAttribute_empty hname]
      exact ih.bare hname hc
    · rw [Attribute.bared, if_neg hbare]
      exact ih.prepend _

theorem writeStart_squeezed (tag : String) (attributes : List Attribute) {xs ys : List Char} (h : Squeezed xs ys) :
    Squeezed ((Markup.writeStart tag attributes).toList ++ xs)
      ((Markup.writeStart tag (attributes.map (Attribute.bared bareNames))).toList ++ ys) := by
  simpa only [writeStart_eq, List.append_assoc, List.singleton_append] using
    (attributes_squeezed tag attributes h).prepend ('<' :: tag.toList)

theorem baredAll_isEmpty (names : List String) (ns : List Node) : (Node.baredAll names ns).isEmpty = ns.isEmpty := by
  cases ns <;> rfl

mutual
/-- **Where a node is written**, its empty attributes get bare. -/
theorem writeNode_squeezed (raw : Bool) (n : Node) {xs ys : List Char} (h : Squeezed xs ys) :
    Squeezed ((Markup.writeNode raw n).toList ++ xs) ((Markup.writeNode raw (n.bared bareNames)).toList ++ ys) := by
  cases n with
  | text content => exact h.prepend _
  | comment content => exact h.prepend _
  | element tag mark attributes children =>
    simp only [Node.bared, Markup.writeNode]
    split_ifs
    · exact writeStart_squeezed tag attributes h
    · simp only [String.toList_append, List.append_assoc, Markup.writeEnd, baredAll_isEmpty]
      exact writeStart_squeezed tag attributes (writeNodes_squeezed _ children (h.prepend _))

theorem writeNodes_squeezed (raw : Bool) (ns : List Node) {xs ys : List Char} (h : Squeezed xs ys) :
    Squeezed ((Markup.writeNodes raw ns).toList ++ xs)
      ((Markup.writeNodes raw (Node.baredAll bareNames ns)).toList ++ ys) := by
  cases ns with
  | nil => exact h
  | cons n rest =>
    simp only [Node.baredAll, Markup.writeNodes, String.toList_append, List.append_assoc]
    exact writeNode_squeezed raw n (writeNodes_squeezed raw rest h)
end

/-! ## Whole documents -/

/-- **A page is its tree with the four attributes bare**, and all else as it is, exactly when nothing more can be
dropped from it: no text, no comment, no name and no value of it spells an empty value of such an attribute out. -/
theorem serialize_eq_iff (root : Element) : serialize root = docType ++ (root.bared bareNames).write ↔
    ¬ Droppable (root.bared bareNames).write.toList := by
  have hsqueezed := writeNode_squeezed false root.toNode Squeezed.nil
  have hroot : squeeze root.write.toList = (root.bared bareNames).write.toList ↔
      ¬ Droppable (root.bared bareNames).write.toList := by
    have hall := hsqueezed.eq_iff []
    simp only [List.nil_append, List.append_nil] at hall
    exact hall
  rw [← hroot, ← String.toList_inj, serialize_eq, String.toList_append]
  exact List.append_right_inj _

/-- an element whose text spells an empty attribute out -/
def spelled : Element := ⟨"p", none, [], [.text "x amp=\"\""]⟩

/-- **A text that spells an empty value out** is changed, where only attributes should be. -/
theorem serialize_spelled : ¬ ∀ root : Element, serialize root = docType ++ (root.bared bareNames).write := by
  intro h
  have hspelled : serialize spelled ≠ docType ++ (spelled.bared bareNames).write := by decide +kernel
  exact hspelled (h spelled)

end AmpArticle.Page
