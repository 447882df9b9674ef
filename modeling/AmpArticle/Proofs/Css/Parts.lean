import AmpArticle.Proofs.Css.Drafting
import Mathlib.Tactic.FinCases

/-!
The parts of a style description, each with where its declarations may go. A part of a text style declares on the
selector of the style, and only the properties of its own key; a key of the description declares on its own selectors.

Results:
- `blockKeys`, `styleKeys`: the keys of a text style and of a whole description, each with what it is read by and with
  the properties or selectors that belong to it;
- `blockKey_appends`, `styleKey_appends`: reading a key adds declarations only there.
-/

namespace AmpArticle.Css

open Drafting

/-- a declaration on a selector of one of some properties -/
def At (selector : String) (properties : List String) (w : Declaration) : Prop :=
  w.selector = selector ∧ w.property ∈ properties

/-- a declaration on one of some selectors -/
def On (selectors : List String) (w : Declaration) : Prop := w.selector ∈ selectors

/-! ## Text styles -/

namespace TextStyle

variable {t : TextStyle} {properties : List String}

theorem declare_at {property value : String} (h : property ∈ properties) :
    Appends (At t.selector properties) (t.declare property value) := declare_appends ⟨rfl, h⟩

theorem font_appends [Room] (h : "font-family" ∈ properties) : Appends (At t.selector properties) t.font := by
  unfold font
  split
  · exact appends_bind (liftM_appends _) fun _ => declare_at h
  · exact appends_pure

theorem lowerCased_appends [Room] {key property : String} (h : property ∈ properties) :
    Appends (At t.selector properties) (t.lowerCased key property) := by
  unfold lowerCased
  split
  · exact appends_bind (liftM_appends _) fun _ => declare_at h
  · exact appends_pure

theorem capitalization_appends [Room] (h : "text-transform" ∈ properties) :
    Appends (At t.selector properties) t.capitalization := by
  unfold capitalization
  split
  · exact appends_pure
  · refine appends_bind (liftM_appends _) fun found => ?_
    split
    · exact declare_at h
    · exact appends_bind (liftM_appends _) fun _ => warn_appends _ _ _

theorem underline_appends (h : "text-decoration" ∈ properties) : Appends (At t.selector properties) t.underline := by
  unfold underline
  split
  · exact appends_pure
  · exact appends_pure
  · exact declare_at h

theorem color_appends {key property : String} (h : property ∈ properties) :
    Appends (At t.selector properties) (t.color key property) := by
  refine appends_bind (Drafting.color_appends _ _) fun rgb => ?_
  split
  · exact declare_at h
  · exact appends_pure

theorem scale_appends [Room] {key property : String} (h : property ∈ properties) :
    Appends (At t.selector properties) (t.scale key property) := by
  unfold scale
  split
  · exact appends_pure
  · refine appends_bind (number_appends _ _) fun x => ?_
    split
    · exact declare_at h
    · exact appends_pure

theorem spacingSide_appends [Room] {p : Declaration → Prop} (side : Json) (name direction : String) :
    Appends p (spacingSide side name direction) := by
  unfold spacingSide
  split
  · refine appends_bind (liftM_appends _) fun length => ?_
    split
    · exact appends_bind (liftM_appends _) fun _ => appends_bind (warn_appends _ _ _) fun _ => appends_pure
    · refine appends_bind (number_appends _ _) fun x => ?_
      split
      · exact appends_bind (liftM_appends _) fun _ => appends_pure
      · exact appends_pure
  · split
    · exact appends_bind (warn_appends _ _ _) fun _ => appends_pure
    · exact appends_pure

theorem spacingSides_appends [Room] {p : Declaration → Prop} (sides : List (String × Json)) (name : String)
    (directions : List String) : Appends p (spacingSides sides name directions) := by
  induction directions with
  | nil => exact appends_pure
  | cons direction rest ih =>
    refine appends_bind (spacingSide_appends _ _ _) fun length => ?_
    split
    · exact appends_pure
    · refine appends_bind ih fun lengths => ?_
      split
      · exact appends_pure
      · exact appends_pure

theorem spacing_appends [Room] {property : String} (h : property ∈ properties) :
    Appends (At t.selector properties) (t.spacing property) := by
  unfold spacing
  split
  · exact appends_pure
  · refine appends_bind (spacingSides_appends _ _ _) fun lengths => ?_
    split
    · exact declare_at h
    · exact appends_pure
  · exact warn_appends _ _ _

theorem borderSide_appends [Room] {p : Declaration → Prop} (sides : List (String × Json)) (direction : String) :
    Appends p (t.borderSide sides direction) := by
  unfold borderSide
  split
  · refine appends_bind (number_appends _ _) fun width => ?_
    exact appends_bind (Drafting.color_appends _ _) fun rgb => appends_pure
  · exact appends_pure

/-- the properties of a border -/
def borderProperties : List String :=
  ["border-width", "border-style", "border-top-color", "border-right-color", "border-bottom-color", "border-left-color"]

theorem borderColor_mem {direction : String} (h : direction ∈ directions) :
    "border-" ++ direction ++ "-color" ∈ borderProperties := by
  fin_cases h <;> decide

/-- the sides of a border with their directions -/
theorem borderSides_directions [Room] {sides : List (String × Json)}
    {found : List (String × Json × Option String)} {d : Draft} (h : Gives (directions.mapM fun direction => return (direction, ← t.borderSide sides direction)) found d) :
    ∀ s ∈ found, s.1 ∈ directions := by
  intro s hs
  have hside (direction : String) : Appends (fun _ => True)
      (do return (direction, ← t.borderSide sides direction)) :=
    appends_bind (borderSide_appends _ _) fun _ => appends_pure
  obtain ⟨direction, hdirection, e, hgives⟩ := mapM_gives_mem (fun direction _ => hside direction) h s hs
  obtain ⟨side, _, _, -, hend, -⟩ := (gives_bind_iff (p := fun _ => True) (q := fun _ => True)
    (borderSide_appends _ _) fun _ => appends_pure).1 hgives
  rw [(gives_pure_iff.1 hend).1]
  exact hdirection

theorem border_appends [Room] : Appends (At t.selector borderProperties) t.border := by
  unfold border
  split
  · exact appends_pure
  · rename_i sides
    refine appends_bind_of (appends_mapM fun direction _ =>
      appends_bind (borderSide_appends _ _) fun _ => appends_pure) fun found d hfound => ?_
    refine appends_bind (declare_at (by decide)) fun _ => appends_bind (declare_at (by decide)) fun _ => ?_
    refine appends_forM fun s hs => ?_
    split
    · exact declare_at (borderColor_mem (borderSides_directions hfound s hs))
    · exact appends_pure
  · exact warn_appends _ _ _

end TextStyle

/-- a key of a text style: the properties that belong to it, and how it is read -/
structure BlockKey where
  key : String
  properties : List String
  read : TextStyle → Drafting Unit

section BlockKeys

variable [Room]

/-- the keys of a text style in the order in which they are read -/
def blockKeys : List BlockKey :=
  [⟨"font", ["font-family"], TextStyle.font⟩,
    ⟨"text_alignment", ["text-align"], fun t => t.lowerCased "text_alignment" "text-align"⟩,
    ⟨"display", ["display"], fun t => t.lowerCased "display" "display"⟩,
    ⟨"capitalization", ["text-transform"], TextStyle.capitalization⟩,
    ⟨"underline", ["text-decoration"], TextStyle.underline⟩,
    ⟨"color", ["color"], fun t => t.color "color" "color"⟩,
    ⟨"background_color", ["background-color"], fun t => t.color "background_color" "background-color"⟩,
    ⟨"text_size_scale", ["font-size"], fun t => t.scale "text_size_scale" "font-size"⟩,
    ⟨"line_height_scale", ["line-height"], fun t => t.scale "line_height_scale" "line-height"⟩,
    ⟨"margin", ["margin"], fun t => t.spacing "margin"⟩,
    ⟨"padding", ["padding"], fun t => t.spacing "padding"⟩,
    ⟨"border", TextStyle.borderProperties, TextStyle.border⟩]

theorem blockKeys_keys : blockKeys.map BlockKey.key =
    ["font", "text_alignment", "display", "capitalization", "underline", "color", "background_color",
      "text_size_scale", "line_height_scale", "margin", "padding", "border"] := rfl

theorem blockKeys_properties : blockKeys.map BlockKey.properties =
    [["font-family"], ["text-align"], ["display"], ["text-transform"], ["text-decoration"], ["color"],
      ["background-color"], ["font-size"], ["line-height"], ["margin"], ["padding"],
      TextStyle.borderProperties] := rfl

theorem draft_eq (t : TextStyle) : t.draft = blockKeys.forM fun k => k.read t := rfl

theorem blockKey_appends {k : BlockKey} (hk : k ∈ blockKeys) (t : TextStyle) :
    Appends (At t.selector k.properties) (k.read t) := by
  fin_cases hk
  · exact TextStyle.font_appends List.mem_cons_self
  · exact TextStyle.lowerCased_appends List.mem_cons_self
  · exact TextStyle.lowerCased_appends List.mem_cons_self
  · exact TextStyle.capitalization_appends List.mem_cons_self
  · exact TextStyle.underline_appends List.mem_cons_self
  · exact TextStyle.color_appends List.mem_cons_self
  · exact TextStyle.color_appends List.mem_cons_self
  · exact TextStyle.scale_appends List.mem_cons_self
  · exact TextStyle.scale_appends List.mem_cons_self
  · exact TextStyle.spacing_appends List.mem_cons_self
  · exact TextStyle.spacing_appends List.mem_cons_self
  · exact TextStyle.border_appends

theorem draft_appends (t : TextStyle) : Appends (On [t.selector]) t.draft := by
  rw [draft_eq]
  refine appends_forM fun k hk => appends_mono (blockKey_appends hk t) fun w hw => ?_
  rw [On, hw.1]
  exact List.mem_singleton_self _

end BlockKeys

/-! ## Whole descriptions -/

namespace Style

variable {classPrefix : String} {resolve? : Option (Json → Except Fault Media.Lookup)} {entries : List (String × Json)}

/-- the selector of the bar at the top -/
def barSelector (classPrefix : String) : String := "." ++ classPrefix ++ "header-bar"

/-- the selector of the divider behind the bar -/
def barSpacingSelector (classPrefix : String) : String :=
  barSelector classPrefix ++ " + ." ++ classPrefix ++ RuleSet.spacingClass

theorem background_appends : Appends (On ["html"]) (background entries) := by
  refine appends_bind (color_appends _ _) fun rgb => ?_
  split
  · exact declare_appends (List.mem_singleton_self _)
  · exact appends_pure

theorem textStyle_appends [Room] (key : String) (ss : List Selector) :
    Appends (On [selectorText classPrefix ss]) (textStyle classPrefix entries key ss) := by
  unfold textStyle
  split
  · exact appends_pure
  · exact draft_appends _
  · exact warn_appends _ _ _

theorem headerColors_appends {spacing : String} :
    Appends (On [barSelector classPrefix, barSelector classPrefix ++ " + ." ++ classPrefix ++ spacing])
      (headerColors classPrefix entries spacing) := by
  unfold headerColors
  refine appends_bind (color_appends _ _) fun rgb => ?_
  split
  · refine appends_bind (declare_appends List.mem_cons_self) fun _ => ?_
    refine appends_bind (color_appends _ _) fun rgb => ?_
    split
    · exact declare_appends (List.mem_cons_of_mem _ List.mem_cons_self)
    · exact appends_pure
  · refine appends_bind (color_appends _ _) fun rgb => ?_
    split
    · exact declare_appends (List.mem_cons_of_mem _ List.mem_cons_self)
    · exact appends_pure

theorem length_appends [Room] {p : Declaration → Prop} (block : List (String × Json)) (key : String) :
    Appends p (Logo.length block key) := by
  unfold Logo.length
  split
  · exact number_appends _ _
  · exact appends_pure

theorem found_appends [Room] {p : Declaration → Prop} (block : List (String × Json)) (url : Json) :
    Appends p (Logo.found? resolve? block url) := by
  unfold Logo.found?
  split
  · exact appends_bind (liftM_appends _) fun _ => appends_bind (warn_appends _ _ _) fun _ => appends_pure
  · refine appends_bind (liftM_appends _) fun found => appends_bind (note_appends _) fun _ => ?_
    split
    · exact appends_bind (liftM_appends _) fun _ => appends_bind (warn_appends _ _ _) fun _ => appends_pure
    · exact appends_pure

theorem extent_appends [Room] {p : Declaration → Prop} (block : List (String × Json)) (url : Json) :
    Appends p (Logo.extent? resolve? block url) := by
  refine appends_bind (length_appends _ _) fun width => appends_bind (length_appends _ _) fun height => ?_
  split
  · exact appends_pure
  · exact found_appends _ _

theorem sized_appends [Room] {p : Declaration → Prop} (header block : List (String × Json)) (url : Json) :
    Appends p (Logo.sized resolve? header block url) := by
  refine appends_bind (extent_appends _ _) fun extent => ?_
  split
  · exact appends_pure
  · refine appends_bind (number_appends _ _) fun scale => ?_
    exact appends_bind (liftM_appends _) fun _ => appends_pure

theorem logo_appends [Room] {p : Declaration → Prop} : Appends p (Logo.ofHeader resolve? entries) := by
  unfold Logo.ofHeader
  split
  · exact appends_pure
  · simp only
    split
    · exact sized_appends _ _ _
    · exact appends_bind (warn_appends _ _ _) fun _ => appends_pure
  · exact appends_bind (warn_appends _ _ _) fun _ => appends_pure

theorem headerBlock_appends [Room] :
    Appends (On [barSelector classPrefix, barSpacingSelector classPrefix])
      (headerBlock classPrefix resolve? entries) := by
  unfold headerBlock
  split
  · exact appends_bind headerColors_appends fun _ => logo_appends
  · exact appends_pure

theorem datePattern_appends {p : Declaration → Prop} : Appends p (datePattern entries) := by
  unfold datePattern
  split
  · exact appends_pure
  · exact appends_pure
  · exact appends_bind (warn_appends _ _ _) fun _ => appends_pure

/-- a step that is only read for what it adds -/
def adding {α : Type} (x : Drafting α) : Drafting Unit := x >>= fun _ => pure ()

theorem adding_appends {α : Type} {p : Declaration → Prop} {x : Drafting α} (h : Appends p x) : Appends p (adding x) :=
  appends_bind h fun _ => appends_pure

theorem adding_gives_iff {α : Type} {p : Declaration → Prop} {x : Drafting α} {e : Draft} (h : Appends p x) :
    Gives (adding x) () e ↔ ∃ a, Gives x a e := by
  rw [adding, gives_bind_iff (q := p) h fun _ => appends_pure]
  constructor
  · rintro ⟨a, e', _, hx, hend, rfl⟩
    rw [(gives_pure_iff.1 hend).2, Draft.append_empty]
    exact ⟨a, hx⟩
  · rintro ⟨a, hx⟩
    exact ⟨a, e, .empty, hx, gives_pure_iff.2 ⟨rfl, rfl⟩, (Draft.append_empty e).symm⟩

theorem adding_fails_iff {α : Type} {p : Declaration → Prop} {x : Drafting α} (h : Appends p x) :
    Fails (adding x) ↔ Fails x := by
  rw [adding, fails_bind_iff (q := p) h fun _ => appends_pure]
  simp [not_fails_pure]

/-- a key of a description: the selectors that belong to it behind a class prefix, and how it is read -/
structure StyleKey where
  key : String
  selectors : String → List String
  read : String → Option (Json → Except Fault Media.Lookup) → List (String × Json) → Drafting Unit

section StyleKeys

variable [Room]

/-- the key of a text style -/
def textKey (s : String × List Selector) : StyleKey :=
  ⟨s.1, fun p => [selectorText p s.2], fun p _ entries => textStyle p entries s.1 s.2⟩

/-- the key of the background of the page -/
def backgroundKey : StyleKey := ⟨"background_color", fun _ => ["html"], fun _ _ entries => background entries⟩

/-- the key of the header block -/
def headerKey : StyleKey :=
  ⟨"header", fun p => [barSelector p, barSpacingSelector p], fun p r entries => adding (headerBlock p r entries)⟩

/-- the key of the pattern of the date -/
def dateKey : StyleKey := ⟨"date_format", fun _ => [], fun _ _ entries => adding (datePattern entries)⟩

/-- the keys of a description in the order in which they are read -/
def styleKeys : List StyleKey := [backgroundKey] ++ selectors.map textKey ++ [headerKey, dateKey]

theorem styleKeys_keys : styleKeys.map StyleKey.key =
    ["background_color"] ++ selectors.map Prod.fst ++ ["header", "date_format"] := by
  simp [styleKeys, backgroundKey, textKey, headerKey, dateKey, Function.comp_def]

theorem styleKey_appends {k : StyleKey} (hk : k ∈ styleKeys) :
    Appends (On (k.selectors classPrefix)) (k.read classPrefix resolve? entries) := by
  simp only [styleKeys, List.mem_append, List.mem_cons, List.not_mem_nil, or_false, List.mem_map] at hk
  rcases hk with (rfl | ⟨s, -, rfl⟩) | rfl | rfl
  · exact background_appends
  · exact textStyle_appends _ _
  · exact adding_appends headerBlock_appends
  · exact adding_appends datePattern_appends

theorem styleKeys_forM : (styleKeys.forM fun k => k.read classPrefix resolve? entries) = (do
    background entries
    selectors.forM fun s => textStyle classPrefix entries s.1 s.2
    adding (headerBlock classPrefix resolve? entries)
    adding (datePattern entries)) := by
  simp [styleKeys, backgroundKey, textKey, headerKey, dateKey]

/-- the line that the log has for a description -/
def summary (entries : List (String × Json)) : Draft :=
  ⟨[], [], [⟨.debug, s!"Compiled style with {entries.length} top-level keys"⟩]⟩

theorem styleKeys_appends :
    Appends (fun _ => True) (styleKeys.forM fun k => k.read classPrefix resolve? entries) :=
  appends_forM fun _ hk => appends_mono (styleKey_appends hk) fun _ _ => trivial

theorem compile_appends (style : Json) : Appends (fun _ => True) (compile classPrefix resolve? style) := by
  unfold compile
  split
  · refine appends_bind (appends_mono background_appends fun _ _ => trivial) fun _ => ?_
    refine appends_bind (appends_forM fun s _ => appends_mono (textStyle_appends _ _) fun _ _ => trivial) fun _ => ?_
    refine appends_bind (appends_mono headerBlock_appends fun _ _ => trivial) fun logo => ?_
    refine appends_bind datePattern_appends fun format => ?_
    exact appends_bind (note_appends _) fun _ => appends_pure
  · exact appends_bind (warn_appends _ _ _) fun _ => appends_pure

theorem adding_compile : adding (compile classPrefix resolve? (.object entries)) = (do
    styleKeys.forM fun k => k.read classPrefix resolve? entries
    note [⟨.debug, s!"Compiled style with {entries.length} top-level keys"⟩]) := by
  rw [styleKeys_forM]
  simp [adding, compile]

/-- **A description adds what its keys add**, one after the other, and a line of the log. -/
theorem compile_gives_iff {d : Draft} : (∃ style, Gives (compile classPrefix resolve? (.object entries)) style d) ↔
    ∃ e, Gives (styleKeys.forM fun k => k.read classPrefix resolve? entries) () e ∧ d = e ++ summary entries := by
  rw [← adding_gives_iff (compile_appends _), adding_compile,
    gives_bind_iff (q := fun _ => True) styleKeys_appends fun _ => note_appends _]
  constructor
  · rintro ⟨_, e, e', hkeys, hnote, rfl⟩
    exact ⟨e, hkeys, by rw [(gives_unique hnote (note_gives _)).2, summary]⟩
  · rintro ⟨e, hkeys, rfl⟩
    exact ⟨(), e, summary entries, hkeys, note_gives _, rfl⟩

theorem compile_fails_iff : Fails (compile classPrefix resolve? (.object entries)) ↔
    ∃ k ∈ styleKeys, Fails (k.read classPrefix resolve? entries) := by
  have hnote (lines : List Media.LogLine) : ¬ Fails (note lines) := not_fails_of_gives (note_gives lines)
  rw [← adding_fails_iff (compile_appends _), adding_compile,
    fails_bind_iff (q := fun _ => True) styleKeys_appends fun _ => note_appends _,
    forM_fails_iff fun _ hk => appends_mono (styleKey_appends hk) fun _ _ => trivial]
  simp [hnote]

end StyleKeys

end Style

end AmpArticle.Css
