import AmpArticle.Proofs.Page.Builders
import Mathlib.Data.List.TakeWhile

/-!
What building an item leaves of the container that it is built into. A container is seen as its text and its children,
where a child is a node that is no text together with the text behind it: a text that is added at the end of a
container goes to its last child, or to its own text when there is no child. So a part that starts with a node of its
own is the only kind that leaves the children before it as they were.

Results:
- `texts_append_shown`, `parts_append_shown`: nodes that start with a shown one leave the text and the children in
  front of them;
- `append_extended`: a sound part at the end of a container is one more child, with its own text behind it;
- `itemInto_frame`: the builder of an item of any kind, in any state, leaves its container as it was or adds one last
  child; warnings are added at the end and features are kept.
-/

namespace AmpArticle.Markup

/-! ## Text and children -/

namespace Node

/-- the text before the first node that is no text -/
def texts (ns : List Node) : String := textContents (ns.takeWhile isText)

/-- the nodes that are no text, each with the text behind it -/
def parts : List Node → List (Node × String)
  | [] => []
  | n :: rest => if n.isText then parts rest else (n, texts rest) :: parts rest

variable {n : Node} {ns ms : List Node}

theorem texts_append_shown (hn : n.isText = false) : texts (ns ++ n :: ms) = texts ns := by
  unfold texts
  induction ns with
  | nil => simp [hn]
  | cons m ns ih =>
    cases hm : m.isText with
    | true => simp only [List.cons_append, List.takeWhile_cons, hm, if_true, textContents, ih]
    | false => simp [hm]

theorem texts_eq_textContents (h : ∀ m ∈ ms, m.isText = true) : texts ms = textContents ms := by
  unfold texts
  rw [List.takeWhile_eq_self_iff.2 h]

theorem parts_of_isText (h : ∀ m ∈ ms, m.isText = true) : parts ms = [] := by
  induction ms with
  | nil => rfl
  | cons m ms ih =>
    rw [parts, if_pos (h m List.mem_cons_self)]
    exact ih fun k hk => h k (List.mem_cons_of_mem m hk)

theorem parts_shown (hn : n.isText = false) : parts (n :: ms) = (n, texts ms) :: parts ms := by
  rw [parts, hn]
  rfl

theorem parts_append_shown (hn : n.isText = false) : parts (ns ++ n :: ms) = parts ns ++ parts (n :: ms) := by
  induction ns with
  | nil => rfl
  | cons m ns ih =>
    cases hm : m.isText with
    | true => simp only [List.cons_append, parts, hm, if_true, ih]
    | false => simp only [List.cons_append, parts_shown hm, texts_append_shown hn, ih]

end Node

/-- the children of an element, each with the text behind it -/
def Element.parts (e : Element) : List (Node × String) := Node.parts e.children

end AmpArticle.Markup

namespace AmpArticle.Page

open Markup (Element Node)

/-! ## One more child -/

/-- an element after a part was built at its end: the part is one more child, and nothing else has changed -/
structure Extended (before after : Element) (b : Built) : Prop where
  tag : after.tag = before.tag
  mark : after.mark = before.mark
  attributes : after.attributes = before.attributes
  text : after.leadingText = before.leadingText
  parts : after.parts = before.parts ++ [(b.node, Node.textContents b.tail)]
  shown : b.node.isText = false

theorem append_extended {b : Built} (e : Element) (hb : b.Sound) : Extended e (e.append b.nodes) b where
  tag := rfl
  mark := rfl
  attributes := rfl
  text := Node.texts_append_shown hb.shown
  parts := by
    show Node.parts (e.children ++ b.node :: b.tail) = Node.parts e.children ++ _
    rw [Node.parts_append_shown hb.shown, Node.parts_shown hb.shown, Node.parts_of_isText hb.text,
      Node.texts_eq_textContents hb.text]
  shown := hb.shown

/-! ## The builders -/

/-- **The frame of a builder.** Whatever the item, the setting, the state and the container: when building comes to an
end, either nothing was built and the container is the one that was given, or what was built is its last child, behind
the children that it had. -/
theorem itemInto_frame [Room] {c : Setting} {container after : Element} {i : Item} {built : Option Built} {s t : State}
    (h : Runs (itemInto c container i) s (after, built) t) :
    (match built with
      | none => after = container
      | some b => Extended container after b) ∧
    s.warnings <+: t.warnings ∧ s.features ⊆ t.features := by
  obtain ⟨built', t', hitem, hend⟩ := runs_bind.1 h
  obtain ⟨hkept, hsound⟩ := item_steady c i s built' t' hitem
  cases built' with
  | none =>
    obtain ⟨hresult, rfl⟩ := runs_pure.1 hend
    obtain ⟨rfl, rfl⟩ := Prod.mk.injEq .. ▸ hresult
    exact ⟨rfl, hkept.warnings, hkept.features⟩
  | some b =>
    obtain ⟨hresult, rfl⟩ := runs_pure.1 hend
    obtain ⟨rfl, rfl⟩ := Prod.mk.injEq .. ▸ hresult
    exact ⟨append_extended container (hsound b rfl), hkept.warnings, hkept.features⟩

/-- a container with a text of its own and a child with text behind it -/
def sampleContainer : Element :=
  ⟨"article", none, [⟨"class", some "article"⟩], [.text "Lead", .element "p" none [] [.text "a"], .text " then "]⟩

/-- markup that is taken over as it is, with text behind it -/
def sampleEmbed : Item := .interactive ⟨none, some "<b>x</b> after", none, none, none⟩

/-- the tags of the children and the texts behind them, when something was built -/
def builtOutline : Except Fault (Element × Option Built) × State → List (Option String × String)
  | (.ok (after, some _), _) => after.parts.map fun part => (part.1.tag?, part.2)
  | _ => []

section Sample

attribute [local instance] Room.usual

theorem itemInto_frame_sample : ∃ after b t,
    Runs (itemInto default sampleContainer sampleEmbed) (.start "" .empty) (after, some b) t ∧
    after.parts.map (fun part => (part.1.tag?, part.2)) = [(some "p", " then "), (some "b", " after")] ∧
    Extended sampleContainer after b ∧ [] <+: t.warnings ∧ [] ⊆ t.features := by
  have houtline : builtOutline ((itemInto default sampleContainer sampleEmbed).run.run (.start "" .empty)) =
      [(some "p", " then "), (some "b", " after")] := by decide +kernel
  rcases hrun : (itemInto default sampleContainer sampleEmbed).run.run (.start "" .empty) with
    ⟨_ | ⟨after, _ | b⟩, t⟩ <;> rw [hrun] at houtline
  · cases houtline
  · cases houtline
  · exact ⟨after, b, t, hrun, houtline, itemInto_frame hrun⟩

end Sample

end AmpArticle.Page
