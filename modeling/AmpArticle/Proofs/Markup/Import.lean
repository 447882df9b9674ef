import AmpArticle.Proofs.Markup.Allowed
import AmpArticle.Proofs.Page.Frame

/-!
Markup that is added at the end of an element, piece by piece. The element is seen as its text and its children, where a
child is a node that is no text together with the text behind it. Text at the front of a piece goes behind the last
child that is there, or to the text of the element when there is none yet.

Results:
- `texts_append`, `parts_append`: the text and the children of nodes that stand in front of others;
- `append_grown`: nodes at the end of an element leave the children that it had as they were;
- `appendMarkup_text`: whatever can be added at the end of an element has a plain text;
- `appendMarkups_grown`: the text of an element grows by the plain texts of the pieces that are added, in their order.
-/

namespace AmpArticle.Markup

/-! ## Nodes in front of others -/

namespace Node

/-- children with more text behind the last of them -/
def extendLast (text : String) : List (Node × String) → List (Node × String)
  | [] => []
  | [(n, tail)] => [(n, tail ++ text)]
  | p :: next :: rest => p :: extendLast text (next :: rest)

variable {n : Node} {ns ms : List Node}

theorem texts_text (hn : n.isText = true) : texts (n :: ns) = n.textContent ++ texts ns := by
  simp [texts, hn, textContents]

theorem texts_shown (hn : n.isText = false) : texts (n :: ns) = "" := by
  simp [texts, hn, textContents]

theorem parts_text (hn : n.isText = true) : parts (n :: ns) = parts ns := by
  rw [parts, if_pos hn]

/-- the text at the front of nodes goes on with that of the nodes behind them when there is no child between -/
theorem texts_append : texts (ns ++ ms) = texts ns ++ if parts ns = [] then texts ms else "" := by
  induction ns with
  | nil => simp [texts, parts, textContents]
  | cons n ns ih =>
    cases hn : n.isText with
    | true => rw [List.cons_append, texts_text hn, texts_text hn, parts_text hn, ih, String.append_assoc]
    | false => simp [texts_shown hn, parts_shown hn]

/-- the text at the front of nodes stands behind the last child in front of them -/
theorem parts_append : parts (ns ++ ms) = extendLast (texts ms) (parts ns) ++ parts ms := by
  induction ns with
  | nil => rfl
  | cons n ns ih =>
    cases hn : n.isText with
    | true => rw [List.cons_append, parts_text hn, parts_text hn, ih]
    | false =>
      rw [List.cons_append, parts_shown hn, parts_shown hn, texts_append, ih]
      cases parts ns with
      | nil => rfl
      | cons p rest => simp [extendLast]

end Node

/-! ## Elements that grow at their end -/

/-- an element after text and children were added at its end: its former children come first, the last of them with
more text behind it, or the element has more text itself when it had no child -/
structure Grown (before after : Element) (text : String) : Prop where
  tag : after.tag = before.tag
  mark : after.mark = before.mark
  attributes : after.attributes = before.attributes
  content : Node.textContents after.children = Node.textContents before.children ++ text
  outline : ∃ more later,
    after.leadingText = before.leadingText ++ (if before.parts = [] then more else "") ∧
    after.parts = Node.extendLast more before.parts ++ later

theorem append_grown (e : Element) (nodes : List Node) : Grown e (e.append nodes) (Node.textContents nodes) where
  tag := rfl
  mark := rfl
  attributes := rfl
  content := Node.textContents_append e.children nodes
  outline := ⟨Node.texts nodes, Node.parts nodes, Node.texts_append, Node.parts_append⟩

/-! ## Pieces of markup -/

variable {e e' : Element} {markup : String} {markups : List String}

/-- **Whatever can be added at the end of an element has a plain text.** The text at its front is allowed on its own,
since it is allowed behind the text that it is joined to. -/
theorem appendMarkup_text (h : e.appendMarkup markup = .ok e') :
    plainText markup = .ok (Node.textContents (taken markup)) := by
  unfold Element.appendMarkup at h
  unfold plainText
  split at h
  · rename_i hempty
    rw [if_pos hempty, taken, if_pos hempty]
    rfl
  · rename_i hmarkup
    obtain ⟨nodes, hnodes, h⟩ := bind_ok_iff.1 h
    obtain ⟨all, hall, -⟩ := bind_ok_iff.1 h
    have halone : joinNodes [] nodes = .ok nodes := by
      unfold joinNodes at hall ⊢
      split at hall
      · rename_i hallowed
        rw [Bool.or_eq_true, Node.textContents_append, isAllowedText_append, Bool.and_eq_true] at hallowed
        refine if_pos (Bool.or_eq_true .. ▸ hallowed.imp_right fun hjoined => ?_)
        exact hjoined.2
      · cases hall
    rw [if_neg hmarkup, taken_eq (Bool.not_eq_true _ ▸ hmarkup) hnodes, hnodes]
    show (joinNodes [] nodes >>= fun all => pure (Node.textContents all)) = _
    rw [halone]
    rfl

/-- Behind an element, or at the front, there is no text to be joined to: markup is added just when it has a plain text,
and fails as that does. -/
theorem appendMarkup_apart (h : endText e.children = []) (markup : String) :
    e.appendMarkup markup = (plainText markup).map fun _ => e.append (taken markup) := by
  unfold Element.appendMarkup plainText
  split
  · rename_i hempty
    rw [taken, if_pos hempty, Element.append, List.append_nil]
    rfl
  · rename_i hmarkup
    cases hnodes : fragments markup with
    | error fault => rfl
    | ok nodes =>
      have hjoined : joinNodes e.children nodes = (joinNodes [] nodes).map fun _ => e.children ++ nodes := by
        unfold joinNodes
        rw [h, show endText [] = [] from rfl]
        split <;> rfl
      show (joinNodes e.children nodes >>= fun all => pure { e with children := all }) =
        (joinNodes [] nodes >>= fun all => pure (Node.textContents all)).map _
      rw [hjoined, taken_eq (Bool.not_eq_true _ ▸ hmarkup) hnodes]
      cases joinNodes [] nodes <;> rfl

/-- pieces that are added one after the other bring their nodes in this order -/
theorem appendMarkups_eq (h : markups.foldlM Element.appendMarkup e = .ok e') :
    e' = e.append (markups.flatMap taken) ∧
    markups.mapM plainText = .ok (markups.map fun markup => Node.textContents (taken markup)) := by
  induction markups generalizing e with
  | nil =>
    obtain rfl := pure_ok_iff.1 h
    exact ⟨by simp [Element.append], rfl⟩
  | cons markup markups ih =>
    obtain ⟨mid, hmid, h⟩ := bind_ok_iff.1 h
    obtain ⟨hend, htexts⟩ := ih h
    refine ⟨?_, ?_⟩
    · rw [hend, appendMarkup_eq hmid]
      simp [Element.append]
    · rw [List.mapM_cons, appendMarkup_text hmid, htexts]
      rfl

theorem textContents_flatMap (markups : List String) : Node.textContents (markups.flatMap taken) =
    String.join (markups.map fun markup => Node.textContents (taken markup)) := by
  induction markups with
  | nil => rfl
  | cons markup markups ih => rw [List.flatMap_cons, Node.textContents_append, ih, List.map_cons, String.join_cons]

/-- **Markup adds its plain text and nothing else.** Whatever the element, when pieces of markup are added at its end
one after the other, all of them have a plain text, the element keeps its tag, its attributes and its children, and
its text is followed by the plain texts of the pieces in their order. -/
theorem appendMarkups_grown (h : markups.foldlM Element.appendMarkup e = .ok e') :
    ∃ texts, markups.mapM plainText = .ok texts ∧ Grown e e' (String.join texts) := by
  obtain ⟨rfl, htexts⟩ := appendMarkups_eq h
  exact ⟨_, htexts, textContents_flatMap markups ▸ append_grown e _⟩

/-- an element with a text of its own, and a child with text behind it -/
def sampleParagraph : Element :=
  ⟨"p", none, [⟨"class", some "lead"⟩], [.text "One ", .element "i" none [] [], .text "two"]⟩

/-- text goes behind the last child, first that which the element had, then the one that the first piece brought -/
theorem appendMarkups_grown_paragraph : ∃ e', ["", " and <b>th</b>ree", "<!-- no --> more"].foldlM Element.appendMarkup
      sampleParagraph = .ok e' ∧
    e'.parts.map (fun part => (part.1.tag?, part.2)) = [(some "i", "two and "), (some "b", "ree"), (none, " more")] ∧
    ∃ texts, ["", " and <b>th</b>ree", "<!-- no --> more"].mapM plainText = .ok texts ∧
      Grown sampleParagraph e' (String.join texts) := by
  have houtline : ((["", " and <b>th</b>ree", "<!-- no --> more"].foldlM Element.appendMarkup
      sampleParagraph).toOption.map fun e' => e'.parts.map fun part => (part.1.tag?, part.2)) =
      some [(some "i", "two and "), (some "b", "ree"), (none, " more")] := by decide +kernel
  cases hrun : ["", " and <b>th</b>ree", "<!-- no --> more"].foldlM Element.appendMarkup sampleParagraph with
  | error fault =>
    rw [hrun] at houtline
    cases houtline
  | ok e' =>
    rw [hrun] at houtline
    exact ⟨e', rfl, Option.some.inj houtline, appendMarkups_grown hrun⟩

end AmpArticle.Markup
