import AmpArticle.Proofs.Markup.Marks
import Mathlib.Data.List.Nodup
import Mathlib.Data.List.TakeWhile

/-!
Start tags. What a tree consists of, its texts aside, shows in the start tags of its elements in document order. Custom
elements are those whose tag begins with `amp-`: the builders make some of them, and markup may bring others.

Results:
- `customsIn_toNode`, `customsIn_adopt`: the custom elements of an element are itself, if it is one, and those of its
  children, also of those that are added;
- `tagsIn_mapMarkedAll`: what is done at marks leaves the number of elements of a tag when it does so at each mark;
- `putAll_attributes`: attributes of different names are all borne.
-/

namespace AmpArticle.Markup

/-- a start tag: the tag of an element with its attributes -/
structure Start where
  tag : String
  attributes : List Attribute
  deriving DecidableEq, Inhabited

/-- whether a tag is that of a custom element -/
def isCustomTag (tag : String) : Bool := "amp-".toList.isPrefixOf tag.toList

/-- the value of an attribute in a start tag -/
def Start.attribute? (s : Start) (name : String) : Option String :=
  (s.attributes.find? (·.name == name)).bind (·.value)

/-- the start tag of an element -/
def Element.start (e : Element) : Start := ⟨e.tag, e.attributes⟩

namespace Node

mutual
/-- the start tags of a tree in document order -/
def starts : Node → List Start
  | .text _ => []
  | .comment _ => []
  | .element tag _ attributes children => ⟨tag, attributes⟩ :: startsIn children

/-- the start tags of the nodes in document order -/
def startsIn : List Node → List Start
  | [] => []
  | n :: rest => n.starts ++ startsIn rest
end

/-- the start tags of the custom elements among the nodes and below -/
def customsIn (ns : List Node) : List Start := (startsIn ns).filter fun s => isCustomTag s.tag

/-- the tags of all elements among the nodes and below -/
def tagsIn (ns : List Node) : List String := (startsIn ns).map Start.tag

theorem startsIn_append (ns ms : List Node) : startsIn (ns ++ ms) = startsIn ns ++ startsIn ms := by
  induction ns with
  | nil => simp [startsIn]
  | cons n ns ih => simp [startsIn, ih]

@[simp] theorem customsIn_nil : customsIn [] = [] := by simp [customsIn, startsIn]

@[simp] theorem customsIn_append (ns ms : List Node) : customsIn (ns ++ ms) = customsIn ns ++ customsIn ms := by
  simp [customsIn, startsIn_append]

theorem customsIn_cons (n : Node) (ns : List Node) : customsIn (n :: ns) = customsIn [n] ++ customsIn ns :=
  customsIn_append [n] ns

@[simp] theorem tagsIn_append (ns ms : List Node) : tagsIn (ns ++ ms) = tagsIn ns ++ tagsIn ms := by
  simp [tagsIn, startsIn_append]

theorem tagsIn_cons (n : Node) (ns : List Node) : tagsIn (n :: ns) = tagsIn [n] ++ tagsIn ns :=
  tagsIn_append [n] ns

theorem tagsIn_toNode (e : Element) : tagsIn [e.toNode] = e.tag :: tagsIn e.children := by
  simp [tagsIn, startsIn, starts, Element.toNode]

theorem startsIn_of_isText {ns : List Node} (h : ∀ n ∈ ns, n.isText = true) : startsIn ns = [] := by
  induction ns with
  | nil => simp [startsIn]
  | cons n ns ih =>
    have htext := h n List.mem_cons_self
    cases n with
    | text content => simp [startsIn, starts, ih fun m hm => h m (List.mem_cons_of_mem _ hm)]
    | comment content => cases htext
    | element tag mark attributes children => cases htext

theorem customsIn_of_isText {ns : List Node} (h : ∀ n ∈ ns, n.isText = true) : customsIn ns = [] := by
  rw [customsIn, startsIn_of_isText h, List.filter_nil]

theorem tagsIn_dropText (ns : List Node) : tagsIn (dropText ns) = tagsIn ns := by
  have hsplit := congrArg startsIn (List.takeWhile_append_dropWhile (p := isText) (l := ns))
  rw [startsIn_append, startsIn_of_isText fun n hn => List.mem_takeWhile_imp hn, List.nil_append] at hsplit
  rw [tagsIn, tagsIn, dropText, hsplit]

/-- the custom elements of an element -/
theorem customsIn_toNode (e : Element) :
    customsIn [e.toNode] = (if isCustomTag e.tag then [e.start] else []) ++ customsIn e.children := by
  simp only [customsIn, startsIn, starts, Element.toNode, Element.start, List.append_nil, List.filter_cons]
  split <;> rfl

theorem customsIn_frame {e : Element} (h : isCustomTag e.tag = false) : customsIn [e.toNode] = customsIn e.children := by
  rw [customsIn_toNode, h]
  rfl

/-- children that are added to an element bring their custom elements -/
theorem customsIn_adopt (e : Element) (ns : List Node) :
    customsIn [(e.append ns).toNode] = customsIn [e.toNode] ++ customsIn ns := by
  rw [customsIn_toNode, customsIn_toNode, Element.append]
  simp [Element.start]

/-- elements of a custom tag are counted among the custom elements -/
theorem count_customsIn {tag : String} (h : isCustomTag tag = true) (ns : List Node) :
    ((customsIn ns).map Start.tag).count tag = (tagsIn ns).count tag := by
  rw [customsIn, tagsIn, List.count_eq_countP, List.count_eq_countP, List.countP_map, List.countP_map,
    List.countP_filter]
  refine List.countP_congr fun s _ => ?_
  simp only [Function.comp_apply, Bool.and_eq_true, beq_iff_eq]
  constructor
  · exact And.left
  · rintro rfl
    exact ⟨rfl, h⟩

section Marks

variable {mark : Mark} {f : Element → Element} {tag : String}

mutual
theorem tagsIn_mapMarked (hf : ∀ e, (tagsIn [(f e).toNode]).count tag = (tagsIn [e.toNode]).count tag) :
    ∀ n : Node, (tagsIn [n.mapMarked mark f]).count tag = (tagsIn [n]).count tag
  | .text _ => by simp [mapMarked]
  | .comment _ => by simp [mapMarked]
  | .element tag' m attributes children => by
    have hbelow := tagsIn_mapMarkedAll hf children
    simp only [mapMarked]
    split
    · rw [hf, tagsIn_toNode]
      show _ = (tagsIn [(⟨tag', m, attributes, children⟩ : Element).toNode]).count tag
      rw [tagsIn_toNode, List.count_cons, List.count_cons, hbelow]
    · show (tagsIn [(⟨tag', m, attributes, mapMarkedAll mark f children⟩ : Element).toNode]).count tag =
        (tagsIn [(⟨tag', m, attributes, children⟩ : Element).toNode]).count tag
      rw [tagsIn_toNode, tagsIn_toNode, List.count_cons, List.count_cons, hbelow]

/-- what leaves the number of elements of a tag at each mark leaves it everywhere -/
theorem tagsIn_mapMarkedAll (hf : ∀ e, (tagsIn [(f e).toNode]).count tag = (tagsIn [e.toNode]).count tag) :
    ∀ ns : List Node, (tagsIn (mapMarkedAll mark f ns)).count tag = (tagsIn ns).count tag
  | [] => by simp [mapMarkedAll]
  | n :: rest => by
    rw [mapMarkedAll, tagsIn_cons, tagsIn_cons n, List.count_append, List.count_append, tagsIn_mapMarked hf n,
      tagsIn_mapMarkedAll hf rest]
end

end Marks

end Node

/-- the custom elements that markup brings -/
def customsOf (markup : String) : List Start := Node.customsIn (taken markup)

/-! ## Attributes -/

/-- attributes with values, as a start tag has them -/
def valued (attributes : List (String × String)) : List Attribute := attributes.map fun a => ⟨a.1, some a.2⟩

/-- a valued attribute is found by its name when no other has it -/
theorem valued_find {attributes : List (String × String)} {name value : String}
    (hnodup : (attributes.map Prod.fst).Nodup) (h : (name, value) ∈ attributes) :
    ((valued attributes).find? (·.name == name)).bind (·.value) = some value := by
  induction attributes with
  | nil => cases h
  | cons a rest ih =>
    rw [List.map_cons, List.nodup_cons] at hnodup
    rcases List.mem_cons.1 h with rfl | h
    · simp [valued]
    · have hne : a.1 ≠ name := by
        rintro rfl
        exact hnodup.1 (List.mem_map.2 ⟨_, h, rfl⟩)
      rw [valued, List.map_cons, List.find?_cons_of_neg (by simpa using hne)]
      exact ih hnodup.2 h

namespace Element

/-- the element with attributes set one after the other, whether or not they are allowed -/
def putAll (e : Element) (attributes : List (String × String)) : Element :=
  attributes.foldl (fun e a => e.put a.1 a.2) e

theorem setAll_putAll {e f : Element} {attributes : List (String × String)} (h : e.setAll attributes = (f, none)) :
    f = e.putAll attributes := by
  induction attributes generalizing e with
  | nil => exact (Prod.mk.inj h).1.symm
  | cons a rest ih =>
    obtain ⟨name, value⟩ := a
    simp only [setAll] at h
    split at h
    · rename_i g hg
      rw [ih h, set_eq_put hg]
      rfl
    · cases (Prod.mk.inj h).2

theorem putAll_children (e : Element) (attributes : List (String × String)) :
    (e.putAll attributes).tag = e.tag ∧ (e.putAll attributes).mark = e.mark ∧
      (e.putAll attributes).children = e.children := by
  induction attributes generalizing e with
  | nil => exact ⟨rfl, rfl, rfl⟩
  | cons a rest ih => exact ih (e.put a.1 a.2)

theorem setIn_absent {name value : String} {as : List Attribute} (h : name ∉ as.map Attribute.name) :
    setIn name value as = as ++ [⟨name, some value⟩] := by
  induction as with
  | nil => rfl
  | cons a as ih =>
    rw [List.map_cons, List.mem_cons, not_or] at h
    rw [setIn, if_neg (Ne.symm h.1), ih h.2, List.cons_append]

/-- **Attributes of different names** are borne in the order in which they are set. -/
theorem putAll_attributes (e : Element) {attributes : List (String × String)}
    (h : (e.attributes.map Attribute.name ++ attributes.map Prod.fst).Nodup) :
    (e.putAll attributes).attributes = e.attributes ++ valued attributes := by
  induction attributes generalizing e with
  | nil => simp [putAll, valued]
  | cons a rest ih =>
    have hnew : a.1 ∉ e.attributes.map Attribute.name := fun hmem =>
      (List.disjoint_of_nodup_append h) hmem (List.mem_cons_self ..)
    have hput : (e.put a.1 a.2).attributes = e.attributes ++ [⟨a.1, some a.2⟩] := setIn_absent hnew
    have hrest := ih (e.put a.1 a.2) (by
      rw [hput, List.map_append, List.append_assoc]
      exact h)
    rw [hput, List.append_assoc] at hrest
    exact hrest

end Element

end AmpArticle.Markup
