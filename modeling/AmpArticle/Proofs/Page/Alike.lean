import AmpArticle.Proofs.Css.NameTrees
import AmpArticle.Proofs.Page.Body

/-!
Trees that differ in the class prefix alone. Every class attribute that the builders set is made from a list of names,
each behind the prefix. Two trees are alike when they agree in everything else, but for the text of the style sheet;
what the markup of an article brings along is one and the same in both, whatever classes it has.

Results:
- `Alike`: two trees with different prefixes in the same place;
- `Made`: two elements in the making, with what may be done to both of them;
- `mapMarkedAll_alike`: what is done at a mark in both trees;
- `settle_alike`: completing the dividers in both trees, by one more name each.
-/

namespace AmpArticle.Page

open Markup (Element Node Mark Attribute)

/-! ## Class attributes -/

/-- class names as an attribute, each behind the prefix; without names there is none -/
def classes (p : String) (names : List String) : List Attribute :=
  if names.isEmpty then [] else [⟨"class", some (Text.joinWith " " (names.map (p ++ ·)))⟩]

/-- attributes that say nothing about classes -/
def Classless (attributes : List Attribute) : Prop := ∀ a ∈ attributes, a.name ≠ "class"

instance (attributes : List Attribute) : Decidable (Classless attributes) :=
  inferInstanceAs (Decidable (∀ a ∈ attributes, _))

/-- class names that are written as a list of names -/
structure IsNames (given : Css.ClassNames) (names : List String) : Prop where
  present : given.isPresent = true
  some_name : names ≠ []
  written : ∀ p, given.classAttribute p = .ok (Text.joinWith " " (names.map (p ++ ·)))

section Classes

variable {p : String} {names : List String} {attributes : List Attribute}

theorem isNames_name {name : String} (h : name.isEmpty = false) : IsNames (.name name) [name] where
  present := by simp [Css.ClassNames.isPresent, h]
  some_name := List.cons_ne_nil _ _
  written p := by simp [Css.ClassNames.classAttribute, Text.joinWith]

theorem isNames_many (names : List String) (h : names ≠ []) : IsNames (.many (names.map .name)) names where
  present := by simp [Css.ClassNames.isPresent, h]
  some_name := h
  written p := by
    rw [Css.ClassNames.classAttribute, Css.ClassNames.classAttributes_names]
    rfl

theorem classes_some (h : names ≠ []) : classes p names = [⟨"class", some (Text.joinWith " " (names.map (p ++ ·)))⟩] := by
  rw [classes, if_neg (by simpa using h)]

/-- the value of a class attribute in front of attributes without one -/
theorem attribute?_classes {e : Element} (h : names ≠ []) (he : e.attributes = classes p names ++ attributes) :
    e.attribute? "class" = some (Text.joinWith " " (names.map (p ++ ·))) := by
  rw [Element.attribute?, he, classes_some h]
  rfl

/-- one more class name -/
theorem setIn_classes (h : names ≠ []) (name : String) :
    Element.setIn "class" (Text.joinWith " " (names.map (p ++ ·)) ++ " " ++ (p ++ name)) (classes p names ++ attributes) =
      classes p (names ++ [name]) ++ attributes := by
  rw [classes_some h, classes_some (by simp), List.map_append, List.map_singleton,
    Text.joinWith_append_of_ne_nil _ (by simpa using h) (List.cons_ne_nil _ _)]
  rfl

/-- an attribute that is none of classes is set behind them -/
theorem setIn_behind {name : String} (h : name ≠ "class") (value : String) :
    Element.setIn name value (classes p names ++ attributes) = classes p names ++ Element.setIn name value attributes := by
  unfold classes
  split
  · rfl
  · rw [List.singleton_append, Element.setIn, if_neg (Ne.symm h)]
    rfl

theorem classless_setIn {name : String} (h : name ≠ "class") (value : String) (ha : Classless attributes) :
    Classless (Element.setIn name value attributes) := by
  induction attributes with
  | nil => exact List.forall_mem_singleton.2 h
  | cons a rest ih =>
    obtain ⟨hfirst, hrest⟩ := List.forall_mem_cons.1 ha
    rw [Element.setIn]
    split
    · exact List.forall_mem_cons.2 ⟨h, hrest⟩
    · exact List.forall_mem_cons.2 ⟨hfirst, ih hrest⟩

end Classes

/-! ## Trees -/

/-- two trees with `p` and `q` in front of the names of one list wherever the builders set classes; `taken` tells the
nodes that markup brings along. The text of the style sheet may be any -/
inductive Alike (taken : Node → Prop) (p q : String) : Node → Node → Prop
  | text (content : String) : Alike taken p q (.text content) (.text content)
  | taken {n : Node} : taken n → Alike taken p q n n
  | element {tag : String} {mark : Option Mark} {names : List String} {attributes : List Attribute}
      {children children' : List Node} :
    Classless attributes → (Markup.Mark.isDivider mark = true → names ≠ []) →
    List.Forall₂ (Alike taken p q) children children' →
    Alike taken p q (.element tag mark (classes p names ++ attributes) children)
      (.element tag mark (classes q names ++ attributes) children')
  | sheet {children children' : List Node} :
    (∀ n ∈ children, n.isText = true) → (∀ n ∈ children', n.isText = true) →
    Alike taken p q (.element "style" none [⟨"amp-custom", some ""⟩] children)
      (.element "style" none [⟨"amp-custom", some ""⟩] children')

/-- rows of such trees -/
abbrev AllAlike (taken : Node → Prop) (p q : String) : List Node → List Node → Prop := List.Forall₂ (Alike taken p q)

/-- texts whose markup brings nodes of a kind -/
def Brings (taken : Node → Prop) (texts : List String) : Prop := ∀ text ∈ texts, ∀ n ∈ Markup.taken text, taken n

section Trees

variable {taken : Node → Prop} {p q : String} {ns ns' ms ms' : List Node}

theorem AllAlike.append (hn : AllAlike taken p q ns ns') (hm : AllAlike taken p q ms ms') :
    AllAlike taken p q (ns ++ ms) (ns' ++ ms') := List.rel_append hn hm

theorem allAlike_taken {nodes : List Node} (h : ∀ n ∈ nodes, taken n) : AllAlike taken p q nodes nodes :=
  List.forall₂_same.2 fun n hn => .taken (h n hn)

theorem Alike.isText {n n' : Node} (h : Alike taken p q n n') : n'.isText = n.isText := by
  cases h <;> rfl

theorem AllAlike.dropText (h : AllAlike taken p q ns ns') :
    AllAlike taken p q (Node.dropText ns) (Node.dropText ns') := by
  unfold Node.dropText
  induction h with
  | nil => exact .nil
  | cons hn hns ih =>
    rw [List.dropWhile_cons, List.dropWhile_cons, hn.isText]
    split
    · exact ih
    · exact .cons hn hns

theorem Brings.append_left {texts texts' : List String} (h : Brings taken (texts ++ texts')) : Brings taken texts :=
  fun text htext => h text (List.mem_append_left _ htext)

theorem Brings.append_right {texts texts' : List String} (h : Brings taken (texts ++ texts')) : Brings taken texts' :=
  fun text htext => h text (List.mem_append_right _ htext)

end Trees

/-! ## Elements in the making -/

/-- two elements that are made alike -/
structure Made (taken : Node → Prop) (p q : String) (e e' : Element) : Prop where
  tag : e'.tag = e.tag
  mark : e'.mark = e.mark
  isNoDivider : Markup.Mark.isDivider e.mark = false
  attributes : ∃ names attributes, Classless attributes ∧ e.attributes = classes p names ++ attributes ∧
    e'.attributes = classes q names ++ attributes
  children : AllAlike taken p q e.children e'.children

namespace Made

variable {taken : Node → Prop} {p q : String} {e e' : Element} {ns ns' : List Node}

theorem alike (h : Made taken p q e e') : Alike taken p q e.toNode e'.toNode := by
  obtain ⟨names, attributes, hclassless, ha, ha'⟩ := h.attributes
  rw [Element.toNode, Element.toNode, h.tag, h.mark, ha, ha']
  refine .element hclassless (fun hdivider => ?_) h.children
  rw [h.isNoDivider] at hdivider
  cases hdivider

theorem bare (tag : String) : Made taken p q (Element.bare tag) (Element.bare tag) :=
  ⟨rfl, rfl, rfl, ⟨[], [], by decide, rfl, rfl⟩, .nil⟩

theorem append (h : Made taken p q e e') (hn : AllAlike taken p q ns ns') : Made taken p q (e.append ns) (e'.append ns') :=
  ⟨h.tag, h.mark, h.isNoDivider, h.attributes, h.children.append hn⟩

theorem prepend (h : Made taken p q e e') (hn : AllAlike taken p q ns ns') :
    Made taken p q { e with children := ns ++ e.children } { e' with children := ns' ++ e'.children } :=
  ⟨h.tag, h.mark, h.isNoDivider, h.attributes, hn.append h.children⟩

theorem adopt {f f' : Element} (h : Made taken p q e e') (hf : Made taken p q f f') :
    Made taken p q (e.append [f.toNode]) (e'.append [f'.toNode]) := h.append (.cons hf.alike .nil)

theorem put (name : String) (hname : name ≠ "class") (value : String) (h : Made taken p q e e') :
    Made taken p q (e.put name value) (e'.put name value) := by
  obtain ⟨names, attributes, hclassless, ha, ha'⟩ := h.attributes
  refine ⟨h.tag, h.mark, h.isNoDivider, ⟨names, Element.setIn name value attributes,
    classless_setIn hname value hclassless, ?_, ?_⟩, h.children⟩
  · rw [Element.put, ha, setIn_behind hname]
  · rw [Element.put, ha', setIn_behind hname]

theorem putAll {attributes : List (String × String)} (hnames : ∀ a ∈ attributes, a.1 ≠ "class")
    (h : Made taken p q e e') : Made taken p q (e.putAll attributes) (e'.putAll attributes) := by
  induction attributes generalizing e e' with
  | nil => exact h
  | cons a rest ih =>
    obtain ⟨ha, hrest⟩ := List.forall_mem_cons.1 hnames
    exact ih hrest (h.put a.1 ha a.2)

theorem withMark {mark : Mark} (hmark : Markup.Mark.isDivider (some mark) = false) (h : Made taken p q e e') :
    Made taken p q { e with mark := some mark } { e' with mark := some mark } :=
  ⟨h.tag, rfl, hmark, h.attributes, h.children⟩

/-- both elements take over the same markup -/
theorem markup {text : String} (htext : Brings taken [text]) (h : Made taken p q e e') :
    Made taken p q (e.append (Markup.taken text)) (e'.append (Markup.taken text)) :=
  h.append (allAlike_taken (htext text (List.mem_singleton_self _)))

/-- the text at the front of both elements is replaced -/
theorem leading (text : List String) (h : Made taken p q e e') :
    Made taken p q { e with children := text.map Node.text ++ Node.dropText e.children }
      { e' with children := text.map Node.text ++ Node.dropText e'.children } := by
  refine ⟨h.tag, h.mark, h.isNoDivider, h.attributes, AllAlike.append ?_ h.children.dropText⟩
  refine List.forall₂_same.2 fun n hn => ?_
  obtain ⟨content, -, rfl⟩ := List.mem_map.1 hn
  exact .text content

/-- a new element with a class for each name -/
theorem new (tag : String) {given : Css.ClassNames} {names : List String} (hgiven : IsNames given names)
    {attributes : List (String × String)} (hnames : ∀ a ∈ attributes, a.1 ≠ "class") :
    Made taken p q ((Element.bare tag).putAll (withClass p (some given) attributes))
      ((Element.bare tag).putAll (withClass q (some given) attributes)) := by
  have hclass (p : String) : withClass p (some given) attributes =
      ("class", Text.joinWith " " (names.map (p ++ ·))) :: attributes := by
    rw [withClass, Option.filter_some_pos hgiven.present, Option.bind_some, hgiven.written]
    rfl
  have hbare (p : String) : (Element.bare tag).put "class" (Text.joinWith " " (names.map (p ++ ·))) =
      ⟨tag, none, classes p names ++ [], []⟩ := by
    rw [classes_some hgiven.some_name]
    rfl
  rw [hclass, hclass]
  show Made taken p q (((Element.bare tag).put _ _).putAll attributes) (((Element.bare tag).put _ _).putAll attributes)
  rw [hbare, hbare]
  exact putAll hnames ⟨rfl, rfl, rfl, ⟨names, [], by decide, rfl, rfl⟩, .nil⟩

end Made

/-! ## What is done to whole trees -/

section Whole

variable {taken : Node → Prop} {p q : String}

theorem unmarked_of_texts {tag : String} {attributes : List Attribute} {ns : List Node}
    (h : ∀ n ∈ ns, n.isText = true) : (Node.element tag none attributes ns).isUnmarked = true := by
  have hbelow : Node.areUnmarked ns = true := (Node.areUnmarked_iff _).2 fun n hn => by
    have htext := h n hn
    cases n with
    | text => rfl
    | comment => cases htext
    | element => cases htext
  simp [Node.isUnmarked, hbelow]

mutual
theorem mapMarked_alike (htaken : ∀ n, taken n → n.isUnmarked = true) {mark : Mark} {f f' : Element → Element}
    (hmark : Markup.Mark.isDivider (some mark) = false)
    (hf : ∀ e e', Made taken p q e e' → Made taken p q (f e) (f' e')) :
    ∀ n n' : Node, Alike taken p q n n' → Alike taken p q (n.mapMarked mark f) (n'.mapMarked mark f')
  | .text content, n', h => by
    cases h with
    | text => simpa [Node.mapMarked] using .text content
    | taken h => simpa [Node.mapMarked] using .text content
  | .comment content, n', h => by
    cases h with
    | taken h => simpa [Node.mapMarked] using .taken h
  | .element tag m attributes children, n', h => by
    cases h with
    | taken h =>
      rw [Node.mapMarked_unmarked _ _ (htaken _ h), Node.mapMarked_unmarked _ _ (htaken _ h)]
      exact .taken h
    | sheet h h' =>
      rw [Node.mapMarked_unmarked _ _ (unmarked_of_texts h), Node.mapMarked_unmarked _ _ (unmarked_of_texts h')]
      exact .sheet h h'
    | @element _ _ names own _ children' hclassless hdivider hchildren =>
      have hbelow := mapMarkedAll_alike htaken hmark hf children _ hchildren
      simp only [Node.mapMarked]
      split
      · rename_i hm
        have hmade : Made taken p q ⟨tag, m, classes p names ++ own, Node.mapMarkedAll mark f children⟩
            ⟨tag, m, classes q names ++ own, Node.mapMarkedAll mark f' children'⟩ :=
          ⟨rfl, rfl, hm ▸ hmark, ⟨names, own, hclassless, rfl, rfl⟩, hbelow⟩
        exact (hf _ _ hmade).alike
      · exact .element hclassless hdivider hbelow

/-- **What is done at a mark** in two trees that are alike, when it keeps elements that are made alike. -/
theorem mapMarkedAll_alike (htaken : ∀ n, taken n → n.isUnmarked = true) {mark : Mark} {f f' : Element → Element}
    (hmark : Markup.Mark.isDivider (some mark) = false)
    (hf : ∀ e e', Made taken p q e e' → Made taken p q (f e) (f' e')) :
    ∀ ns ns' : List Node, AllAlike taken p q ns ns' →
      AllAlike taken p q (Node.mapMarkedAll mark f ns) (Node.mapMarkedAll mark f' ns')
  | [], _, h => by
    cases h
    simp [Node.mapMarkedAll]
  | n :: rest, _, h => by
    cases h with
    | cons hn hrest =>
      simp only [Node.mapMarkedAll]
      exact .cons (mapMarked_alike htaken hmark hf n _ hn) (mapMarkedAll_alike htaken hmark hf rest _ hrest)
end

end Whole

/-- the names that dividers give to those before them, each behind its prefix -/
def DividersAlike (p q : String) (s t : State) : Prop :=
  List.Forall₂ (fun d d' => ∃ name, d = p ++ name ∧ d' = q ++ name) s.dividers t.dividers

section Settled

variable {taken : Node → Prop} {p q : String} {s t : State}

theorem completeDivider_alike (h : DividersAlike p q s t) (number : Nat) {tag : String} {mark : Option Mark}
    {names : List String} {attributes : List Attribute} {ns ns' : List Node} (hclassless : Classless attributes)
    (hnames : names ≠ []) (hn : AllAlike taken p q ns ns') :
    Alike taken p q (s.completeDivider number ⟨tag, mark, classes p names ++ attributes, ns⟩).toNode
      (t.completeDivider number ⟨tag, mark, classes q names ++ attributes, ns'⟩).toNode := by
  unfold State.completeDivider
  by_cases hnumber : number + 1 < s.dividers.length
  · have hnumber' : number + 1 < t.dividers.length := h.length_eq ▸ hnumber
    obtain ⟨name, hname, hname'⟩ := h.get hnumber hnumber'
    rw [List.get_eq_getElem] at hname hname'
    rw [List.getElem?_eq_getElem hnumber, List.getElem?_eq_getElem hnumber', hname, hname']
    have hclass {r : String} {below : List Node} :
        (Element.mk tag mark (classes r names ++ attributes) below).attribute? "class" =
          some (Text.joinWith " " (names.map (r ++ ·))) := attribute?_classes hnames rfl
    simp only [Element.put, hclass, Option.getD_some, setIn_classes hnames]
    exact .element hclassless (fun _ => by simp) hn
  · have hnumber' : ¬ number + 1 < t.dividers.length := h.length_eq ▸ hnumber
    rw [List.getElem?_eq_none (Nat.le_of_not_lt hnumber), List.getElem?_eq_none (Nat.le_of_not_lt hnumber')]
    exact .element hclassless (fun _ => hnames) hn

mutual
/-- **The dividers completed** in two trees that are alike. -/
theorem settle_alike (htaken : ∀ n, taken n → n.isUnmarked = true) (h : DividersAlike p q s t) :
    ∀ n n' : Node, Alike taken p q n n' → Alike taken p q (s.settle n) (t.settle n')
  | .text content, _, hn => by
    cases hn with
    | text => simpa [State.settle] using .text content
    | taken hn => simpa [State.settle] using .text content
  | .comment content, _, hn => by
    cases hn with
    | taken hn => simpa [State.settle] using .taken hn
  | .element tag mark attributes children, _, hn => by
    cases hn with
    | taken hn =>
      rw [settle_free _ _ (Node.isFree_of_unmarked (htaken _ hn)), settle_free _ _ (Node.isFree_of_unmarked (htaken _ hn))]
      exact .taken hn
    | sheet hn hn' =>
      rw [settle_free _ _ (Node.isFree_of_unmarked (unmarked_of_texts hn)),
        settle_free _ _ (Node.isFree_of_unmarked (unmarked_of_texts hn'))]
      exact .sheet hn hn'
    | element hclassless hdivider hchildren =>
      have hbelow := settleAll_alike htaken h children _ hchildren
      simp only [State.settle]
      split
      · exact completeDivider_alike h _ hclassless (hdivider rfl) hbelow
      · exact .element hclassless hdivider hbelow

theorem settleAll_alike (htaken : ∀ n, taken n → n.isUnmarked = true) (h : DividersAlike p q s t) :
    ∀ ns ns' : List Node, AllAlike taken p q ns ns' → AllAlike taken p q (s.settleAll ns) (t.settleAll ns')
  | [], _, hn => by
    cases hn
    simp [State.settleAll]
  | n :: rest, _, hn => by
    cases hn with
    | cons hn hrest =>
      simp only [State.settleAll]
      exact .cons (settle_alike htaken h n _ hn) (settleAll_alike htaken h rest _ hrest)
end

end Settled

end AmpArticle.Page
