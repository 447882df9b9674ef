import AmpArticle.Proofs.Css.NameTrees
import AmpArticle.Proofs.Markup.Import
import AmpArticle.Proofs.Page.Map
import AmpArticle.Proofs.Page.Sizes

/-!
Captions, and the figures that hold them. A caption brings up to four pieces of markup, some of them in elements of
their own. It is made just when each piece has a plain text, and its text is that of the pieces in their order.

Results:
- `Reads`, `reads_bind`: steps that depend on the markup that they read alone;
- `caption_reads`, `captionElement_text`: the element of a caption, and its text;
- `figure_run`: what becomes of an element that gets a caption.
-/

namespace AmpArticle.Page

open Markup (Element Node isAllowedText plainText taken)

variable {c : Setting} {s t : State} {e : Element}

/-! ## Reading -/

/-- a step that reads pieces of markup: it fails as the first of them does that has no plain text, else it has a
result, and leaves the state as it is -/
def Reads {α : Type} (x : Rendering α) (s : State) (markups : List String) (a : α) : Prop :=
  x.run.run s = ((markups.mapM plainText).map fun _ => a, s)

theorem reads_bind {α β : Type} {x : Rendering α} {f : α → Rendering β} {a : α} {b : β} {markups markups' : List String}
    (hx : Reads x s markups a) (hf : Reads (f a) s markups' b) : Reads (x >>= f) s (markups ++ markups') b := by
  unfold Reads at hx hf ⊢
  rw [run_bind, hx, List.mapM_append]
  cases markups.mapM plainText with
  | error fault => rfl
  | ok texts =>
    show (f a).run.run s = _
    rw [hf]
    cases markups'.mapM plainText <;> rfl

theorem withMarkup_reads (h : Markup.endText e.children = []) (markup : String) :
    Reads (Rendering.withMarkup e markup) s [markup] (e.append (taken markup)) := by
  unfold Reads Rendering.withMarkup
  rw [run_liftM, Markup.appendMarkup_apart h, List.mapM_cons]
  cases plainText markup <;> rfl

theorem create_reads {tag : String} {names : Option Css.ClassNames} {given attributes : List (String × String)}
    (htag : Element.create tag = .ok (Element.bare tag)) (hnames : AreReadable names) (hplain : ArePlain given)
    (hall : withClass s.classPrefix names given = attributes) (hallowed : areAllowed attributes = true) :
    Reads (Rendering.create tag names given) s [] ((Element.bare tag).putAll attributes) := by
  unfold Reads
  rw [create_run htag hnames hplain, hall, if_pos hallowed]
  rfl

/-! ## Captions -/

/-- the node of a part of a caption in an element of its own -/
def captionNodes (tag : String) (markup : Option String) : List Node :=
  match markup with
  | some markup => if markup.isEmpty then [] else [((Element.bare tag).append (taken markup)).toNode]
  | none => []

theorem captionPart_reads {tag : String} (htag : Element.create tag = .ok (Element.bare tag)) (e : Element)
    (markup : Option String) :
    Reads (captionPart e tag markup) s markup.toList (e.append (captionNodes tag markup)) := by
  unfold captionPart captionNodes
  cases markup with
  | none =>
    rw [Element.append, List.append_nil]
    rfl
  | some markup =>
    dsimp only
    split_ifs with hempty
    · rw [Element.append, List.append_nil, Reads, Option.toList, List.mapM_cons, plainText, if_pos hempty]
      rfl
    · show Reads (_ >>= _) s ([] ++ ([markup] ++ [])) _
      exact reads_bind (create_reads htag readable_none plain_nil rfl rfl) (reads_bind (withMarkup_reads rfl markup) rfl)

/-- the element of a caption whose parts have been read -/
def captionElement (classPrefix : String) (cap : Caption) : Element :=
  ⟨"figcaption", none, [⟨"class", some (Text.joinWith " " ((captionClasses cap).map (classPrefix ++ ·)))⟩],
    captionNodes "h1" cap.title ++ captionNodes "h2" cap.subtitle ++ taken cap.text ++ captionNodes "cite" cap.credit⟩

theorem classAttribute_names (p : String) (names : List String) :
    (Css.ClassNames.many (names.map .name)).classAttribute p = .ok (Text.joinWith " " (names.map (p ++ ·))) := by
  rw [Css.ClassNames.classAttribute, Css.ClassNames.classAttributes_names]
  rfl

theorem captionClasses_allowed (cap : Caption) : ∀ name ∈ captionClasses cap, isAllowedText name = true := by
  have hsize : ∀ x : FontSize, isAllowedText x.className = true := by rintro (_ | _ | _ | _) <;> decide
  have hplace : ∀ x : CaptionPlace, isAllowedText x.className = true := by rintro (_ | _) <;> decide
  have hlines : ∀ x : LineAlignment, isAllowedText x.className = true := by rintro (_ | _ | _) <;> decide
  have hblock : ∀ x : BlockAlignment, isAllowedText x.className = true := by rintro (_ | _ | _) <;> decide
  have hown : isAllowedText "figcaption" = true := by decide
  simp only [captionClasses, List.forall_mem_append, List.forall_mem_cons, List.not_mem_nil, false_implies,
    implies_true, and_true, Option.mem_toList, Option.map_eq_some_iff]
  refine ⟨⟨⟨⟨hown, hsize _⟩, ?_⟩, ?_⟩, ?_⟩
  · rintro _ ⟨x, -, rfl⟩
    exact hlines x
  · rintro _ ⟨x, -, rfl⟩
    exact hplace x
  · rintro _ ⟨x, -, rfl⟩
    exact hblock x

theorem endText_eq_nil {ns : List Node} (h : ∀ n ∈ ns, n.isText = false) : Markup.endText ns = [] := by
  rw [Markup.endText, List.reverse_eq_nil_iff]
  cases hreversed : ns.reverse with
  | nil => rfl
  | cons n rest =>
    have hn : n ∈ ns := List.mem_reverse.1 (hreversed ▸ List.mem_cons_self)
    rw [List.takeWhile_cons_of_neg (by simp [h n hn])]

theorem captionNodes_apart {tag : String} {markup : Option String} :
    ∀ n ∈ captionNodes tag markup, n.isText = false := by
  unfold captionNodes
  split
  · split_ifs
    · simp
    · simp [Element.toNode, Node.isText]
  · simp

/-- **A caption** is made just when all of its parts have plain texts. -/
theorem caption_reads (cap : Caption) (hallowed : isAllowedText s.classPrefix = true) :
    Reads (caption cap) s (captionMarkups (some cap)) (captionElement s.classPrefix cap) := by
  let classes := Text.joinWith " " ((captionClasses cap).map (s.classPrefix ++ ·))
  let bare : Element := ⟨"figcaption", none, [⟨"class", some classes⟩], []⟩
  have hnew : Reads (Rendering.create "figcaption" (some (.many ((captionClasses cap).map .name))) []) s [] bare := by
    have hnames : AreReadable (some (.many ((captionClasses cap).map .name))) := by
      rintro names hmem p
      cases hmem
      exact ⟨_, classAttribute_names p _⟩
    have hclass : withClass s.classPrefix (some (.many ((captionClasses cap).map .name))) [] = [("class", classes)] := by
      rw [withClass, Option.filter_some_pos rfl, Option.bind_some, classAttribute_names]
      rfl
    have hvalue : isAllowedText classes = true := by
      refine Markup.isAllowedText_joinWith (by decide) fun part hpart => ?_
      obtain ⟨name, hname, rfl⟩ := List.mem_map.1 hpart
      rw [Markup.isAllowedText_append, hallowed, captionClasses_allowed cap name hname]
      rfl
    exact create_reads rfl hnames plain_nil hclass (by simp [areAllowed, hvalue])
  -- title and subtitle have elements of their own, so that the text is not joined to any other
  have happart : Markup.endText ((bare.append (captionNodes "h1" cap.title)).append
      (captionNodes "h2" cap.subtitle)).children = [] := by
    refine endText_eq_nil fun n hn => ?_
    simp only [Element.append, bare, List.nil_append, List.mem_append] at hn
    exact hn.elim (captionNodes_apart n) (captionNodes_apart n)
  have hmarkups : captionMarkups (some cap) =
      [] ++ (cap.title.toList ++ (cap.subtitle.toList ++ ([cap.text] ++ cap.credit.toList))) := by
    simp [captionMarkups]
  rw [hmarkups]
  exact reads_bind hnew (reads_bind (captionPart_reads rfl _ _) (reads_bind (captionPart_reads rfl _ _)
    (reads_bind (withMarkup_reads happart _) (captionPart_reads rfl _ _))))

/-- the text of pieces of markup one after the other -/
theorem texts_eq {markups texts : List String} (h : markups.mapM plainText = .ok texts) :
    texts = markups.map fun markup => Node.textContents (taken markup) := by
  have hall := mapM_ok_iff.1 h
  clear h
  induction hall with
  | nil => rfl
  | cons htext _ ih => rw [List.map_cons, ← ih, Markup.plainText_eq htext]

theorem captionNodes_text (tag : String) (markup : Option String) : Node.textContents (captionNodes tag markup) =
    String.join (markup.toList.map fun markup => Node.textContents (taken markup)) := by
  cases markup with
  | none => rfl
  | some markup =>
    unfold captionNodes
    dsimp only
    split_ifs with hempty
    · rw [Option.toList, List.map_singleton, taken, if_pos hempty]
      rfl
    · simp [Element.toNode, Element.append, Element.bare, Node.textContents, Node.textContent]

/-- **The text of a caption** is that of its parts in their order. -/
theorem captionElement_text {p : String} {cap : Caption} {texts : List String}
    (h : (captionMarkups (some cap)).mapM plainText = .ok texts) :
    Node.textContents (captionElement p cap).children = String.join texts := by
  rw [texts_eq h]
  simp only [captionElement, captionMarkups, Node.textContents_append, captionNodes_text, List.map_append,
    String.join_append, List.map_singleton]
  simp

/-! ## Figures -/

/-- the figure around an element with a caption -/
def captionFigure (classPrefix : String) (e : Element) (cap : Caption) : Element :=
  let below := captionElement classPrefix cap
  ⟨"figure", none, [⟨"class", some (classPrefix ++ "figure")⟩],
    if cap.place = some .above then [below.toNode, e.toNode] else [e.toNode, below.toNode]⟩

/-- the log once an element has a figure around it -/
def noteFigure (e : Element) (s : State) : State :=
  { s with log := s.log ++ [⟨.debug, s!"Captioned <{e.tag}> in a figure"⟩] }

/-- **An element with a caption** gets a figure around it when all parts of the caption have plain texts. -/
theorem figure_run (e : Element) (cap : Caption) (hallowed : isAllowedText s.classPrefix = true) :
    (figure e (some cap)).run.run s =
      match (captionMarkups (some cap)).mapM plainText with
      | .ok _ => (.ok (.ofElement (captionFigure s.classPrefix e cap)), noteFigure e s)
      | .error fault => (.error fault, s) := by
  unfold figure
  dsimp only
  rw [run_bind, createNamed_run rfl rfl (by decide), if_pos hallowed]
  dsimp only
  rw [run_bind, caption_reads cap hallowed]
  cases (captionMarkups (some cap)).mapM plainText with
  | error fault => rfl
  | ok texts => rfl

theorem figure_forbidden (e : Element) (cap : Caption) (hforbidden : isAllowedText s.classPrefix = false) :
    (figure e (some cap)).run.run s = (.error .forbiddenCharacter, s) := by
  unfold figure
  dsimp only
  rw [run_bind, createNamed_run rfl rfl (by decide), hforbidden]
  rfl

end AmpArticle.Page
