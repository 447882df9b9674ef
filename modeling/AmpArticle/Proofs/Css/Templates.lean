import AmpArticle.Proofs.Css.Selectors
import AmpArticle.Proofs.Results
import Mathlib.Data.List.Nodup

/-!
Selectors as templates. A selector of a page is written with the class prefix at one or more places; what stands between
these places does not depend on it. Two templates of the family give different selectors whatever the prefix, so that
declarations meet in a block or do not behind every prefix alike.

Results:
- `fill_injective`: no two templates coincide, for any prefix;
- `modifyBlock_fill`, `RuleSet.Twins.declareIn`: rules behind two prefixes come from the same blocks, and still do when
  the same is declared in both;
- `compile_templated`: a style description has the same declarations on the same templates behind every prefix, and the
  same warnings.
-/

namespace AmpArticle.Css

/-- a selector as the texts between the places of the class prefix -/
abbrev Template := List String

/-- the selector with a class prefix at its places -/
def Template.fill (classPrefix : String) (t : Template) : String := Text.joinWith classPrefix t

/-! ## The family -/

namespace Style

/-- the texts behind the first place of selectors -/
def piecesFrom (s : Selector) : List Selector → Template
  | [] => [s.rest]
  | s' :: rest => (s.rest ++ ", " ++ s'.element ++ ".") :: piecesFrom s' rest

/-- the template of the selectors of a text style -/
def pieces : List Selector → Template
  | [] => []
  | s :: rest => (s.element ++ ".") :: piecesFrom s rest

/-- the template of the bar at the top -/
def barTemplate : Template := [".", "header-bar"]

/-- the template of the divider behind the bar -/
def barSpacingTemplate : Template := [".", "header-bar + .", RuleSet.spacingClass]

/-- the templates of a style description -/
def templates : List Template := ["html"] :: selectors.map (fun s => pieces s.2) ++ [barTemplate, barSpacingTemplate]

end Style

/-- the selectors of a page: those of its style, and for each clipped image those of its box and its picture -/
inductive IsTemplate : Template → Prop
  | style {t : Template} : t ∈ Style.templates → IsTemplate t
  | box (number : Nat) : IsTemplate ["div.", "viewport" ++ "-" ++ toString number]
  | picture (number : Nat) : IsTemplate ["amp-img.", "viewport" ++ "-" ++ toString number]

section Family

open Style

variable {p : String} {t t' : Template}

theorem fill_cons (p text : String) {t : Template} (h : t ≠ []) : Template.fill p (text :: t) = text ++ p ++ t.fill p := by
  obtain ⟨first, rest, rfl⟩ := List.exists_cons_of_ne_nil h
  rfl

theorem piecesFrom_ne_nil (s : Selector) (rest : List Selector) : piecesFrom s rest ≠ [] := by
  cases rest <;> exact List.cons_ne_nil _ _

theorem fill_piecesFrom (p : String) (s : Selector) (rest : List Selector) :
    s.element ++ "." ++ p ++ (piecesFrom s rest).fill p = selectorText p (s :: rest) := by
  induction rest generalizing s with
  | nil => rfl
  | cons s' rest ih =>
    have hrest : selectorText p (s :: s' :: rest) = s.text p ++ ", " ++ selectorText p (s' :: rest) := rfl
    rw [hrest, ← ih, piecesFrom, fill_cons p _ (piecesFrom_ne_nil s' rest), Selector.text]
    simp only [String.append_assoc]

theorem fill_pieces (p : String) {ss : List Selector} (h : ss ≠ []) : (pieces ss).fill p = selectorText p ss := by
  obtain ⟨s, rest, rfl⟩ := List.exists_cons_of_ne_nil h
  rw [pieces, fill_cons p _ (piecesFrom_ne_nil s rest), fill_piecesFrom]

theorem fill_bar (p : String) : barTemplate.fill p = barSelector p := by
  simp [barTemplate, Template.fill, Text.joinWith, barSelector, String.append_assoc]

theorem fill_barSpacing (p : String) : barSpacingTemplate.fill p = barSpacingSelector p := by
  simp [barSpacingTemplate, Template.fill, Text.joinWith, barSpacingSelector, barSelector, String.append_assoc]

theorem selectors_ne_nil : ∀ s ∈ selectors, s.2 ≠ [] := by decide

theorem templates_fill [Room] (p : String) :
    templates.map (Template.fill p) = styleKeys.flatMap fun k => k.selectors p := by
  have htexts : (selectors.map fun s => pieces s.2).map (Template.fill p) =
      (selectors.map textKey).flatMap fun k => k.selectors p := by
    rw [List.map_map, List.flatMap_map]
    calc selectors.map (Template.fill p ∘ fun s => pieces s.2)
      _ = selectors.map fun s => selectorText p s.2 :=
        List.map_congr_left fun s hs => fill_pieces p (selectors_ne_nil s hs)
      _ = selectors.flatMap fun s => (textKey s).selectors p := List.map_eq_flatMap
  rw [templates, styleKeys, List.map_append, List.map_cons, htexts, List.flatMap_append, List.flatMap_append]
  simp only [List.map_cons, List.map_nil, fill_bar, fill_barSpacing]
  rfl

/-- the templates of a style give different selectors -/
theorem templates_fill_nodup (p : String) : (templates.map (Template.fill p)).Nodup := by
  -- the selectors are the same in any room
  let _ : Room := .usual
  rw [templates_fill, List.nodup_flatMap]
  refine ⟨fun k hk => ?_, (styleKeys_apart p).imp fun h x hx hy => h x hx x hy rfl⟩
  simp only [styleKeys, List.mem_append, List.mem_cons, List.not_mem_nil, or_false, List.mem_map] at hk
  rcases hk with (rfl | ⟨s, -, rfl⟩) | rfl | rfl
  · exact List.nodup_singleton _
  · exact List.nodup_singleton _
  · refine List.nodup_cons.2 ⟨fun h => ?_, List.nodup_singleton _⟩
    -- one is longer than the other
    have hlength := congrArg String.length (List.mem_singleton.1 h)
    simp only [barSpacingSelector, String.length_append] at hlength
    have hdot : " + .".length = 4 := by decide
    omega
  · exact List.nodup_nil

/-- the elements that the templates of a style begin with, but for the page itself -/
def leads : List String := ["h1", "h2", "h3", "p", "article", "blockquote", "aside", "figcaption", "footer", ""]

theorem leads_plain : ∀ element ∈ leads,
    (∀ c ∈ element.toList, c ≠ '.') ∧ element.toList ∉ ["div".toList, "amp-img".toList] := by
  decide

theorem templates_lead : ∀ t ∈ templates, t = ["html"] ∨ ∃ element ∈ leads, t.head? = some (element ++ ".") := by
  decide

theorem elementOf_fill {element : String} (h : ∀ c ∈ element.toList, c ≠ '.')
    (ht : t.head? = some (element ++ ".")) : elementOf (t.fill p) = element.toList := by
  cases t with
  | nil => cases ht
  | cons first rest =>
    cases ht
    by_cases hrest : rest = []
    · subst hrest
      have hend := elementOf_append h ""
      rwa [String.append_empty] at hend
    · rw [fill_cons p _ hrest, String.append_assoc, elementOf_append h]

theorem elementOf_style (h : t ∈ templates) : elementOf (t.fill p) ∉ ["div".toList, "amp-img".toList] := by
  rcases templates_lead t h with rfl | ⟨element, helement, hhead⟩
  · have hhtml : elementOf (Template.fill p ["html"]) = "html".toList := by
      rw [Template.fill, Text.joinWith]
      decide
    rw [hhtml]
    decide
  · rw [elementOf_fill (leads_plain element helement).1 hhead]
    exact (leads_plain element helement).2

theorem elementOf_box (number : Nat) :
    elementOf (Template.fill p ["div.", "viewport" ++ "-" ++ toString number]) = "div".toList :=
  elementOf_fill (by decide) rfl

theorem elementOf_picture (number : Nat) :
    elementOf (Template.fill p ["amp-img.", "viewport" ++ "-" ++ toString number]) = "amp-img".toList :=
  elementOf_fill (by decide) rfl

theorem fill_pair_right {first text text' : String} (h : Template.fill p [first, text] = Template.fill p [first, text']) :
    text = text' := by
  rw [fill_cons p _ (List.cons_ne_nil _ _), fill_cons p _ (List.cons_ne_nil _ _)] at h
  exact (String.append_right_inj _).1 h

/-- **No two templates coincide**, whatever stands for the prefix. -/
theorem fill_injective (p : String) (ht : IsTemplate t) (ht' : IsTemplate t') (h : t.fill p = t'.fill p) : t = t' := by
  have helement := congrArg elementOf h
  cases ht with
  | style ht =>
    have hstyle := elementOf_style (p := p) ht
    rw [helement] at hstyle
    cases ht' with
    | style ht' => exact List.inj_on_of_nodup_map (templates_fill_nodup p) ht ht' h
    | box number =>
      rw [elementOf_box] at hstyle
      exact absurd (by decide) hstyle
    | picture number =>
      rw [elementOf_picture] at hstyle
      exact absurd (by decide) hstyle
  | box number =>
    cases ht' with
    | style ht' =>
      have hstyle := elementOf_style (p := p) ht'
      rw [← helement, elementOf_box] at hstyle
      exact absurd (by decide) hstyle
    | box number' => rw [fill_pair_right h]
    | picture number' =>
      rw [elementOf_box, elementOf_picture] at helement
      exact absurd helement (by decide)
  | picture number =>
    cases ht' with
    | style ht' =>
      have hstyle := elementOf_style (p := p) ht'
      rw [← helement, elementOf_picture] at hstyle
      exact absurd (by decide) hstyle
    | box number' =>
      rw [elementOf_box, elementOf_picture] at helement
      exact absurd helement (by decide)
    | picture number' => rw [fill_pair_right h]

end Family

/-! ## Rules on templates -/

/-- a declaration on a template -/
structure Outline where
  template : Template
  property : String
  value : String

/-- the declaration behind a class prefix -/
def Outline.fill (p : String) (o : Outline) : Declaration := ⟨o.template.fill p, o.property, o.value⟩

/-- a block of declarations on a template, behind a class prefix -/
def fillBlock (p : String) (b : Template × Declarations) : Key × Declarations := (.ofText (b.1.fill p), b.2)

/-- blocks on templates with the declarations on one of them changed, an unused one beginning without any -/
def modifyTemplate (t : Template) (f : Declarations → Declarations) :
    List (Template × Declarations) → List (Template × Declarations)
  | [] => [(t, f [])]
  | (t', ds) :: rest => if t' = t then (t', f ds) :: rest else (t', ds) :: modifyTemplate t f rest

/-- blocks on templates with a declaration set -/
def outlined (blocks : List (Template × Declarations)) (o : Outline) : List (Template × Declarations) :=
  modifyTemplate o.template (Declarations.set (.ofText o.property) o.value) blocks

/-- all blocks are on templates of the family -/
def OnTemplates (blocks : List (Template × Declarations)) : Prop := ∀ b ∈ blocks, IsTemplate b.1

section Blocks

variable {p : String} {t : Template} {f : Declarations → Declarations} {blocks : List (Template × Declarations)}

theorem modifyTemplate_onTemplates (ht : IsTemplate t) (h : OnTemplates blocks) :
    OnTemplates (modifyTemplate t f blocks) := by
  induction blocks with
  | nil => exact List.forall_mem_singleton.2 ht
  | cons b rest ih =>
    obtain ⟨hb, hrest⟩ := List.forall_mem_cons.1 h
    rw [modifyTemplate]
    split
    · exact List.forall_mem_cons.2 ⟨hb, hrest⟩
    · exact List.forall_mem_cons.2 ⟨hb, ih hrest⟩

/-- **A block is changed behind every prefix alike**: selectors meet just when their templates do. -/
theorem modifyBlock_fill (ht : IsTemplate t) (h : OnTemplates blocks) :
    RuleSet.modifyBlock (.ofText (t.fill p)) f (blocks.map (fillBlock p)) =
      (modifyTemplate t f blocks).map (fillBlock p) := by
  induction blocks with
  | nil => rfl
  | cons b rest ih =>
    obtain ⟨hb, hrest⟩ := List.forall_mem_cons.1 h
    have hmeet : (Key.ofText (b.1.fill p)).identity = (Key.ofText (t.fill p)).identity ↔ b.1 = t := by
      simp only [Key.ofText, KeyIdentity.text.injEq]
      constructor
      · exact fill_injective p hb ht
      · rintro rfl
        rfl
    rw [List.map_cons, fillBlock, RuleSet.modifyBlock, modifyTemplate]
    by_cases hsame : b.1 = t
    · rw [if_pos (hmeet.2 hsame), if_pos hsame]
      rfl
    · rw [if_neg (mt hmeet.1 hsame), if_neg hsame, ih hrest]
      rfl

end Blocks

/-- two sets of rules that come from the same blocks, each behind its own prefix -/
structure RuleSet.Twins (p q : String) (r r' : RuleSet) : Prop where
  left : r.classPrefix = p
  right : r'.classPrefix = q
  spacing : r'.spacing = r.spacing
  blocks : ∃ blocks, OnTemplates blocks ∧ r.blocks = blocks.map (fillBlock p) ∧ r'.blocks = blocks.map (fillBlock q)

namespace RuleSet.Twins

variable {p q : String} {r r' : RuleSet}

theorem empty (p q : String) : Twins p q (RuleSet.empty p) (RuleSet.empty q) :=
  ⟨rfl, rfl, rfl, [], by simp [OnTemplates], rfl, rfl⟩

theorem set {t : Template} (ht : IsTemplate t) (property value : String) (h : Twins p q r r') :
    Twins p q (r.set (t.fill p) property value) (r'.set (t.fill q) property value) := by
  obtain ⟨blocks, hblocks, hr, hr'⟩ := h.blocks
  refine ⟨h.left, h.right, h.spacing, outlined blocks ⟨t, property, value⟩, ?_, ?_, ?_⟩
  · exact modifyTemplate_onTemplates ht hblocks
  · rw [RuleSet.set, setKey, hr, modifyBlock_fill ht hblocks]
    rfl
  · rw [RuleSet.set, setKey, hr', modifyBlock_fill ht hblocks]
    rfl

/-- declarations on the same templates set one after the other -/
theorem declareIn {d d' : Draft} {os : List Outline} (hos : ∀ o ∈ os, IsTemplate o.template)
    (hd : d.declarations = os.map (Outline.fill p)) (hd' : d'.declarations = os.map (Outline.fill q))
    (h : Twins p q r r') : Twins p q (d.declareIn r) (d'.declareIn r') := by
  rw [Draft.declareIn, Draft.declareIn, hd, hd']
  clear hd hd'
  induction os generalizing r r' with
  | nil => exact h
  | cons o os ih =>
    obtain ⟨ho, hrest⟩ := List.forall_mem_cons.1 hos
    exact ih hrest (h.set ho o.property o.value)

end RuleSet.Twins

/-! ## Reading a description -/

section Steps

variable {α β γ : Type}

/-- a step that is told the class prefix fails behind every prefix, or behind every prefix it has one and the same result
and adds the same to the draft, with its declarations on the same templates -/
def Templated (x : String → Drafting α) : Prop :=
  (∀ p, Fails (x p)) ∨ ∃ (a : α) (os : List Outline) (warnings : List Warning) (log : List Media.LogLine),
    (∀ o ∈ os, IsTemplate o.template) ∧ ∀ p, Gives (x p) a ⟨os.map (Outline.fill p), warnings, log⟩

/-- a step without declarations needs no prefix -/
theorem templated_of_appends {x : Drafting α} (h : Appends (fun _ => False) x) : Templated fun _ => x := by
  rcases h with hfails | ⟨a, e, hgives, hnone⟩
  · exact .inl fun _ => hfails
  · refine .inr ⟨a, [], e.warnings, e.log, by simp, fun _ => ?_⟩
    rwa [List.map_nil, ← List.eq_nil_iff_forall_not_mem.2 hnone]

theorem templated_pure (a : α) : Templated fun _ => (pure a : Drafting α) := templated_of_appends appends_pure

theorem templated_bind {x : String → Drafting α} {f : α → String → Drafting β} (hx : Templated x)
    (hf : ∀ a, Templated (f a)) : Templated fun p => x p >>= fun a => f a p := by
  rcases hx with hfails | ⟨a, os, ws, log, hos, hgives⟩
  · exact .inl fun p => fails_bind_left (hfails p)
  · rcases hf a with hfails | ⟨b, os', ws', log', hos', hgives'⟩
    · exact .inl fun p => fails_bind_right (hgives p) (hfails p)
    · refine .inr ⟨b, os ++ os', ws ++ ws', log ++ log', fun o ho => ?_, fun p => ?_⟩
      · rcases List.mem_append.1 ho with ho | ho
        · exact hos o ho
        · exact hos' o ho
      · rw [List.map_append]
        exact gives_bind (f := fun a => f a p) (hgives p) (hgives' p)

theorem templated_forM {f : String → γ → Drafting Unit} {xs : List γ} (h : ∀ x ∈ xs, Templated fun p => f p x) :
    Templated fun p => xs.forM (f p) := by
  induction xs with
  | nil => exact templated_pure ()
  | cons x xs ih =>
    obtain ⟨hx, hxs⟩ := List.forall_mem_cons.1 h
    exact templated_bind hx fun _ => ih hxs

theorem templated_declare {t : Template} (ht : IsTemplate t) (property value : String) :
    Templated fun p => Drafting.declare (t.fill p) property value := by
  refine .inr ⟨(), [⟨t, property, value⟩], [], [], by simpa using ht, fun p => ?_⟩
  exact Drafting.declare_gives (t.fill p) property value

end Steps

/-! ### Text styles -/

namespace TextStyle

open Drafting

theorem underline_plain {t : TextStyle} (h : t.entry "underline" ∈ [.null, .text "NONE"]) : t.underline = pure () := by
  simp only [List.mem_cons, List.not_mem_nil, or_false] at h
  unfold underline
  rcases h with h | h
  · rw [h]
  · rw [h]
    rfl

theorem underline_other {t : TextStyle} (h : t.entry "underline" ∉ [.null, .text "NONE"]) :
    t.underline = t.declare "text-decoration" "underline" := by
  simp only [List.mem_cons, List.not_mem_nil, or_false, not_or] at h
  unfold underline
  split
  · exact absurd ‹_› h.1
  · exact absurd ‹_› h.2
  · rfl

variable {t : Template} (ht : IsTemplate t) (block : List (String × Json)) (name : String)

include ht

theorem font_templated [Room] : Templated fun p => (TextStyle.mk (t.fill p) block name).font := by
  unfold font
  dsimp only [place]
  cases lookup? "font" block with
  | none => exact templated_pure ()
  | some v => exact templated_bind (templated_of_appends (liftM_appends _)) fun _ => templated_declare ht _ _

theorem lowerCased_templated [Room] (key property : String) :
    Templated fun p => (TextStyle.mk (t.fill p) block name).lowerCased key property := by
  unfold lowerCased
  dsimp only [place]
  cases lookup? key block with
  | none => exact templated_pure ()
  | some v => exact templated_bind (templated_of_appends (liftM_appends _)) fun _ => templated_declare ht _ _

theorem capitalization_templated [Room] : Templated fun p => (TextStyle.mk (t.fill p) block name).capitalization := by
  unfold capitalization
  dsimp only [place]
  cases lookup? "capitalization" block with
  | none => exact templated_pure ()
  | some v =>
    refine templated_bind (templated_of_appends (liftM_appends _)) fun found => ?_
    cases found with
    | some transform => exact templated_declare ht _ _
    | none => exact templated_of_appends (appends_bind (liftM_appends _) fun _ => warn_appends _ _ _)

theorem underline_templated : Templated fun p => (TextStyle.mk (t.fill p) block name).underline := by
  by_cases hplain : (TextStyle.mk "" block name).entry "underline" ∈ [.null, .text "NONE"]
  · have hnone (p : String) : (TextStyle.mk (t.fill p) block name).underline = pure () := underline_plain hplain
    simp only [hnone]
    exact templated_pure ()
  · have hline (p : String) : (TextStyle.mk (t.fill p) block name).underline =
        (TextStyle.mk (t.fill p) block name).declare "text-decoration" "underline" := underline_other hplain
    simp only [hline]
    exact templated_declare ht _ _

theorem color_templated (key property : String) :
    Templated fun p => (TextStyle.mk (t.fill p) block name).color key property := by
  refine templated_bind
    (templated_of_appends (Drafting.color_appends ((lookup? key block).getD .null) s!"{name}.{key}")) fun rgb => ?_
  cases rgb with
  | some rgb => exact templated_declare ht _ _
  | none => exact templated_pure ()

theorem scale_templated [Room] (key property : String) :
    Templated fun p => (TextStyle.mk (t.fill p) block name).scale key property := by
  unfold scale
  dsimp only
  cases lookup? key block with
  | none => exact templated_pure ()
  | some v =>
    refine templated_bind (templated_of_appends (number_appends _ _)) fun x => ?_
    cases x with
    | some x => exact templated_declare ht _ _
    | none => exact templated_pure ()

theorem spacing_templated [Room] (property : String) :
    Templated fun p => (TextStyle.mk (t.fill p) block name).spacing property := by
  unfold spacing
  simp only [entry]
  cases (lookup? property block).getD .null with
  | null => exact templated_pure ()
  | object sides =>
    refine templated_bind (templated_of_appends (spacingSides_appends _ _ _)) fun lengths => ?_
    cases lengths with
    | some lengths => exact templated_declare ht _ _
    | none => exact templated_pure ()
  | _ => exact templated_of_appends (warn_appends _ _ _)

theorem border_templated [Room] : Templated fun p => (TextStyle.mk (t.fill p) block name).border := by
  unfold border
  simp only [entry]
  cases (lookup? "border" block).getD .null with
  | null => exact templated_pure ()
  | object sides =>
    -- the sides are read without a look at the selector
    have hsides : Appends (fun _ => False)
        (directions.mapM fun direction => return (direction, ← (TextStyle.mk "" block name).borderSide sides direction)) :=
      appends_mapM fun direction _ => appends_bind (borderSide_appends _ _) fun _ => appends_pure
    refine templated_bind (templated_of_appends hsides) fun found => ?_
    refine templated_bind (templated_declare ht _ _) fun _ => templated_bind (templated_declare ht _ _) fun _ => ?_
    refine templated_forM fun s _ => ?_
    cases s.2.2 with
    | some rgb => exact templated_declare ht _ _
    | none => exact templated_pure ()
  | _ => exact templated_of_appends (warn_appends _ _ _)

theorem draft_templated [Room] : Templated fun p => (TextStyle.mk (t.fill p) block name).draft := by
  simp only [draft_eq]
  refine templated_forM fun k hk => ?_
  fin_cases hk
  · exact font_templated ht block name
  · exact lowerCased_templated ht block name _ _
  · exact lowerCased_templated ht block name _ _
  · exact capitalization_templated ht block name
  · exact underline_templated ht block name
  · exact color_templated ht block name _ _
  · exact color_templated ht block name _ _
  · exact scale_templated ht block name _ _
  · exact scale_templated ht block name _ _
  · exact spacing_templated ht block name _
  · exact spacing_templated ht block name _
  · exact border_templated ht block name

end TextStyle

/-! ### Whole descriptions -/

namespace Style

open Drafting

variable (resolve? : Option (Json → Except Fault Media.Lookup)) (entries : List (String × Json))

theorem background_templated : Templated fun _ => background entries := by
  refine templated_bind (templated_of_appends (color_appends _ _)) fun rgb => ?_
  cases rgb with
  | some rgb => exact templated_declare (t := ["html"]) (.style List.mem_cons_self) _ _
  | none => exact templated_pure ()

theorem textStyle_templated [Room] {key : String} {ss : List Selector} (h : (key, ss) ∈ selectors) :
    Templated fun p => textStyle p entries key ss := by
  have ht : IsTemplate (pieces ss) :=
    .style (List.mem_append_left _ (List.mem_cons_of_mem _ (List.mem_map.2 ⟨_, h, rfl⟩)))
  unfold textStyle
  cases (lookup? key entries).getD .null with
  | null => exact templated_pure ()
  | object block =>
    have hdraft := TextStyle.draft_templated ht block key
    simp only [fill_pieces _ (selectors_ne_nil _ h)] at hdraft
    exact hdraft
  | _ => exact templated_of_appends (warn_appends _ _ _)

theorem bar_mem : barTemplate ∈ templates ∧ barSpacingTemplate ∈ templates :=
  ⟨List.mem_append_right _ List.mem_cons_self, List.mem_append_right _ (List.mem_cons_of_mem _ List.mem_cons_self)⟩

theorem headerColors_templated : Templated fun p => headerColors p entries := by
  have hbar (rgb : String) : Templated fun p => declare (barSelector p) "background-color" rgb := by
    simp only [← fill_bar]
    exact templated_declare (.style bar_mem.1) _ _
  have hspacing (rgb : String) : Templated fun p => declare (barSpacingSelector p) "border-top" rgb := by
    simp only [← fill_barSpacing]
    exact templated_declare (.style bar_mem.2) _ _
  refine templated_bind (templated_of_appends (color_appends _ _)) fun bar => ?_
  rcases bar with _ | rgb
  on_goal 2 => refine templated_bind (hbar rgb) fun _ => ?_
  -- the line behind the bar is read in the same way whether the bar has a colour or not
  all_goals
    refine templated_bind (templated_of_appends (color_appends _ _)) fun line => ?_
    cases line with
    | some rgb => exact hspacing _
    | none => exact templated_pure ()

theorem headerBlock_templated [Room] : Templated fun p => headerBlock p resolve? entries := by
  unfold headerBlock
  cases lookup? "header" entries with
  | none => exact templated_pure none
  | some v =>
    cases v with
    | object header => exact templated_bind (headerColors_templated header) fun _ => templated_of_appends logo_appends
    | _ => exact templated_pure none

/-- **A description is read alike behind every prefix**: it fails, or it comes to the same logo and pattern, the same
warnings, and the same declarations on the same templates. -/
theorem compile_templated [Room] (style : Json) : Templated fun p => compile p resolve? style := by
  unfold compile
  cases style with
  | object entries =>
    refine templated_bind (background_templated entries) fun _ => ?_
    refine templated_bind (templated_forM fun s hs => textStyle_templated entries hs) fun _ => ?_
    refine templated_bind (headerBlock_templated resolve? entries) fun logo => ?_
    refine templated_bind (templated_of_appends datePattern_appends) fun format => ?_
    exact templated_bind (templated_of_appends (note_appends _)) fun _ => templated_pure _
  | _ => exact templated_bind (templated_of_appends (warn_appends _ _ _)) fun _ => templated_pure _

end Style

end AmpArticle.Css
