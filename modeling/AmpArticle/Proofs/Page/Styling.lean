import AmpArticle.Proofs.Media.Files
import AmpArticle.Proofs.Page.Unfiltered

/-!
Files that style a page. A style that is not there, or is none, costs a warning; a style sheet that is not there is
empty. Both let a conversion go on. What cannot be read as text stops it, in whichever of the three files it stands, and
so does a style whose text passes a limit of the reader.

Results:
- `styleOf_described`, `styleOf_lost`, `styleOf_unreadable`: the ways of a style;
- `sheet_given`, `sheet_unreadable`: the ways of a style sheet;
- `customSheet_given`, `customSheet_unreadable`: the ways of the whole sheet;
- `styling_outcome`: all outcomes of both, with what they leave of the state;
- `styleOf_garbled`: a byte that no text has stops a conversion.
-/

namespace AmpArticle.Page

open Extension (Observer)

variable {c : Setting} {f : Folders} {s : State} {path text : String} {fault : Fault}

/-! ## Style -/

section Style

variable [Room]

/-- the state with one more warning, which is in the log too -/
def State.warned (s : State) (w : Warning) : State :=
  { s with warnings := s.warnings ++ [w], log := s.log ++ [⟨.warning, w.message⟩] }

/-- the warning about a style that is lost -/
def styleWarning (path : String) (fault : Fault) : Warning :=
  let message := match fault with
    | .file .notFound _ => s!"Style file {path} not found, rendering without style."
    | fault => s!"Could not load style file {path}: {fault.message}"
  .about message (.text path) (some fault)

theorem styleOf_described (hoverride : c.properties.overrideStyles = none) {v : Json}
    (h : c.resolver.disk.HasValue .styleFile (stylePath c f) v) : (styleOf c f).run.run s = (.ok v, s) := by
  obtain ⟨htext, hv⟩ := h
  obtain ⟨bytes, hread, hbytes⟩ := Disk.read_text htext
  simp only [styleOf, hoverride, hread, hbytes]
  simp only [run_bind, run_liftM, hv, run_pure]

theorem styleOf_lost (hoverride : c.properties.overrideStyles = none)
    (h : c.resolver.disk.LacksValue .styleFile (stylePath c f) fault) :
    (styleOf c f).run.run s = (.ok (.object []), s.warned (styleWarning (stylePath c f) fault)) := by
  cases h with
  | file hlacks =>
    rename_i cause
    simp only [styleOf, hoverride, Disk.read_lacking hlacks]
    cases cause <;> rfl
  | text htext he =>
    obtain ⟨bytes, hread, hbytes⟩ := Disk.read_text htext
    simp only [styleOf, hoverride, hread, hbytes]
    simp only [run_bind, run_liftM, he]
    rfl

theorem styleOf_unreadable (hoverride : c.properties.overrideStyles = none)
    (h : c.resolver.disk.UnreadableValue .styleFile (stylePath c f) fault) :
    (styleOf c f).run.run s = (.error fault, s) := by
  cases h with
  | text h =>
    rcases Disk.read_unreadable h with ⟨bytes, hread, hbytes⟩ | ⟨hread, hfault⟩
    · simp only [styleOf, hoverride, hread, hbytes]
      rfl
    · simp only [styleOf, hoverride, hread]
      cases fault
      case file cause p => exact absurd rfl (hfault cause p)
      all_goals rfl
  | limit htext hlimit =>
    obtain ⟨bytes, hread, hbytes⟩ := Disk.read_text htext
    simp only [styleOf, hoverride, hread, hbytes]
    simp only [run_bind, run_liftM, hlimit]
    rfl

end Style

/-! ## Style sheets -/

/-- what a style sheet counts as -/
inductive SheetText (d : Disk) (path : String) : String → Prop
  | text {text : String} : d.HasText path text → SheetText d path text
  | missing {cause : FileFault} : d.LacksFile path cause → SheetText d path ""

theorem sheet_given (h : SheetText c.resolver.disk path text) :
    ∃ log, (sheet c path).run.run s = (.ok text, { s with log := log }) := by
  cases h with
  | text htext =>
    obtain ⟨bytes, hread, hbytes⟩ := Disk.read_text htext
    refine ⟨s.log, ?_⟩
    simp only [sheet, hread, hbytes]
    rfl
  | missing hlacks =>
    simp only [sheet, Disk.read_lacking hlacks]
    exact ⟨_, rfl⟩

theorem sheet_unreadable (h : c.resolver.disk.Unreadable path fault) :
    (sheet c path).run.run s = (.error fault, s) := by
  rcases Disk.read_unreadable h with ⟨bytes, hread, hbytes⟩ | ⟨hread, hfault⟩
  · simp only [sheet, hread, hbytes]
    rfl
  · simp only [sheet, hread]
    cases fault
    case file cause p => exact absurd rfl (hfault cause p)
    all_goals rfl

theorem sheet_cases (d : Disk) (path : String) :
    (∃ text, SheetText d path text) ∨ ∃ fault, d.Unreadable path fault := by
  rcases Disk.text_cases d path with ⟨text, htext⟩ | ⟨cause, hlacks⟩ | hunreadable
  · exact .inl ⟨text, .text htext⟩
  · exact .inl ⟨"", .missing hlacks⟩
  · exact .inr hunreadable

/-- the path of the general style sheet -/
def generalSheetPath (f : Folders) : String := Disk.join f.sheets "amp.css"

/-- the path of the style sheet of a style -/
def ownSheetPath (c : Setting) (f : Folders) : String := Disk.join f.styles (c.article.style ++ ".style.css")

/-- the rules of a page and two style sheets as one -/
def wholeSheet (s : State) (general own : String) : String :=
  unbroken (s.rules.build false) ++ unbroken (withPrefix s.classPrefix general) ++ unbroken own

/-- the style sheet of a page when both files count as texts -/
theorem customSheet_given (hs : s.observer.registry.at_ .customCss = []) {general own : String}
    (hgeneral : SheetText c.resolver.disk (generalSheetPath f) general)
    (hown : SheetText c.resolver.disk (ownSheetPath c f) own) :
    ∃ log, (customSheet c f).run.run s =
      ((Markup.checkText (wholeSheet s general own)).map fun _ => some (wholeSheet s general own),
        { s with log := log }) := by
  obtain ⟨log, hrun⟩ := sheet_given (s := s) hgeneral
  obtain ⟨log', hrun'⟩ := sheet_given (s := { s with log := log }) hown
  refine ⟨log', ?_⟩
  rw [generalSheetPath] at hrun
  rw [ownSheetPath] at hrun'
  have hfilter (v : Extension.Value) : (Rendering.filter .customCss v []).run.run { s with log := log' } =
      (.ok v, { s with log := log' }) := filter_run hs
  simp only [customSheet, run_bind, hrun, run_get, hrun', hfilter, run_liftM, wholeSheet]
  cases Markup.checkText (unbroken (s.rules.build false) ++ unbroken (withPrefix s.classPrefix general) ++ unbroken own)
    <;> rfl

/-- why a style sheet of a page cannot be read; the general one comes first -/
inductive UnreadableSheet (c : Setting) (f : Folders) (fault : Fault) : Prop
  | general : c.resolver.disk.Unreadable (generalSheetPath f) fault → UnreadableSheet c f fault
  | own {general : String} : SheetText c.resolver.disk (generalSheetPath f) general →
      c.resolver.disk.Unreadable (ownSheetPath c f) fault → UnreadableSheet c f fault

theorem customSheet_unreadable (h : UnreadableSheet c f fault) :
    ∃ log, (customSheet c f).run.run s = (.error fault, { s with log := log }) := by
  cases h with
  | general h =>
    have hrun := sheet_unreadable (s := s) h
    rw [generalSheetPath] at hrun
    refine ⟨s.log, ?_⟩
    simp only [customSheet, run_bind, hrun]
  | own hgeneral h =>
    obtain ⟨log, hrun⟩ := sheet_given (s := s) hgeneral
    have hrun' := sheet_unreadable (s := { s with log := log }) h
    rw [generalSheetPath] at hrun
    rw [ownSheetPath] at hrun'
    refine ⟨log, ?_⟩
    simp only [customSheet, run_bind, hrun, run_get, hrun']

theorem customSheet_cases (c : Setting) (f : Folders) :
    (∃ general own, SheetText c.resolver.disk (generalSheetPath f) general ∧
      SheetText c.resolver.disk (ownSheetPath c f) own) ∨ ∃ fault, UnreadableSheet c f fault := by
  rcases sheet_cases c.resolver.disk (generalSheetPath f) with ⟨general, hgeneral⟩ | ⟨fault, h⟩
  · rcases sheet_cases c.resolver.disk (ownSheetPath c f) with ⟨own, hown⟩ | ⟨fault, h⟩
    · exact .inl ⟨general, own, hgeneral, hown⟩
    · exact .inr ⟨fault, .own hgeneral h⟩
  · exact .inr ⟨fault, .general h⟩

/-! ## Outcomes -/

theorem styleOf_ok_iff [Room] (hoverride : c.properties.overrideStyles = none) {v : Json} {t : State} :
    (styleOf c f).run.run s = (.ok v, t) ↔
      c.resolver.disk.HasValue .styleFile (stylePath c f) v ∧ s = t ∨
        ∃ fault, c.resolver.disk.LacksValue .styleFile (stylePath c f) fault ∧ .object [] = v ∧
          s.warned (styleWarning (stylePath c f) fault) = t := by
  constructor
  · intro hrun
    rcases c.resolver.disk.value_cases .styleFile (stylePath c f) with ⟨v', hv⟩ | ⟨fault, hlost⟩ | ⟨fault, h⟩
    · cases (styleOf_described hoverride hv).symm.trans hrun
      exact .inl ⟨hv, rfl⟩
    · cases (styleOf_lost hoverride hlost).symm.trans hrun
      exact .inr ⟨fault, hlost, rfl, rfl⟩
    · cases (styleOf_unreadable hoverride h).symm.trans hrun
  · rintro (⟨hv, rfl⟩ | ⟨fault, hlost, rfl, rfl⟩)
    · exact styleOf_described hoverride hv
    · exact styleOf_lost hoverride hlost

theorem styleOf_error_iff [Room] (hoverride : c.properties.overrideStyles = none) {t : State} :
    (styleOf c f).run.run s = (.error fault, t) ↔
      c.resolver.disk.UnreadableValue .styleFile (stylePath c f) fault ∧ s = t := by
  constructor
  · intro hrun
    rcases c.resolver.disk.value_cases .styleFile (stylePath c f) with ⟨v, hv⟩ | ⟨fault', hlost⟩ | ⟨fault', h⟩
    · cases (styleOf_described hoverride hv).symm.trans hrun
    · cases (styleOf_lost hoverride hlost).symm.trans hrun
    · cases (styleOf_unreadable hoverride h).symm.trans hrun
      exact ⟨h, rfl⟩
  · rintro ⟨h, rfl⟩
    exact styleOf_unreadable hoverride h

theorem customSheet_ok_iff (hs : s.observer.registry.at_ .customCss = []) {css : Option String} :
    ((customSheet c f).run.run s).1 = .ok css ↔
      ∃ general own, SheetText c.resolver.disk (generalSheetPath f) general ∧
        SheetText c.resolver.disk (ownSheetPath c f) own ∧
        Markup.checkText (wholeSheet s general own) = .ok () ∧ some (wholeSheet s general own) = css := by
  constructor
  · intro hrun
    rcases customSheet_cases c f with ⟨general, own, hgeneral, hown⟩ | ⟨fault, h⟩
    · obtain ⟨log, hgiven⟩ := customSheet_given hs hgeneral hown
      rw [hgiven] at hrun
      refine ⟨general, own, hgeneral, hown, ?_⟩
      cases hcheck : Markup.checkText (wholeSheet s general own) with
      | error fault =>
        rw [hcheck] at hrun
        cases hrun
      | ok _ =>
        rw [hcheck] at hrun
        cases hrun
        exact ⟨rfl, rfl⟩
    · obtain ⟨log, hfails⟩ := customSheet_unreadable (s := s) h
      rw [hfails] at hrun
      cases hrun
  · rintro ⟨general, own, hgeneral, hown, hcheck, rfl⟩
    obtain ⟨log, hgiven⟩ := customSheet_given hs hgeneral hown
    rw [hgiven, hcheck]
    rfl

theorem customSheet_error_iff (hs : s.observer.registry.at_ .customCss = []) :
    ((customSheet c f).run.run s).1 = .error fault ↔ UnreadableSheet c f fault ∨
      ∃ general own, SheetText c.resolver.disk (generalSheetPath f) general ∧
        SheetText c.resolver.disk (ownSheetPath c f) own ∧
        Markup.checkText (wholeSheet s general own) = .error fault := by
  constructor
  · intro hrun
    rcases customSheet_cases c f with ⟨general, own, hgeneral, hown⟩ | ⟨fault', h⟩
    · obtain ⟨log, hgiven⟩ := customSheet_given hs hgeneral hown
      rw [hgiven] at hrun
      refine .inr ⟨general, own, hgeneral, hown, ?_⟩
      cases hcheck : Markup.checkText (wholeSheet s general own) with
      | error fault' =>
        rw [hcheck] at hrun
        cases hrun
        rfl
      | ok _ =>
        rw [hcheck] at hrun
        cases hrun
    · obtain ⟨log, hfails⟩ := customSheet_unreadable (s := s) h
      rw [hfails] at hrun
      cases hrun
      exact .inl h
  · rintro (h | ⟨general, own, hgeneral, hown, hcheck⟩)
    · obtain ⟨log, hfails⟩ := customSheet_unreadable (s := s) h
      rw [hfails]
    · obtain ⟨log, hgiven⟩ := customSheet_given hs hgeneral hown
      rw [hgiven, hcheck]
      rfl

/-- the style sheet of a page changes nothing of the state but the log -/
theorem customSheet_leaves (hs : s.observer.registry.at_ .customCss = []) :
    { s with log := ((customSheet c f).run.run s).2.log } = ((customSheet c f).run.run s).2 := by
  rcases customSheet_cases c f with ⟨general, own, hgeneral, hown⟩ | ⟨fault, h⟩
  · obtain ⟨log, hgiven⟩ := customSheet_given hs hgeneral hown
    rw [hgiven]
  · obtain ⟨log, hfails⟩ := customSheet_unreadable (s := s) h
    rw [hfails]

/-- **Files that style a page.** A style file with the text of a JSON value gives that value, and nothing is noted; one
that is not there, or has another text, gives an empty style after exactly one warning. A style sheet that is not there
is empty, and no warning is given about it. Without filters, both fail only where the bytes of one of the three files
are those of no text, or its path is none that a file could have, where the text of a style passes a limit of the
reader, and where the whole sheet has a character that no document may have. -/
theorem styling_outcome [Room] (c : Setting) (f : Folders) (s : State) (hoverride : c.properties.overrideStyles = none)
    (hs : s.observer.registry.at_ .customCss = []) :
    let d := c.resolver.disk
    let path := stylePath c f
    let sheets := (customSheet c f).run.run s
    (∀ v t, (styleOf c f).run.run s = (.ok v, t) ↔
      d.HasValue .styleFile path v ∧ s = t ∨
        ∃ fault, d.LacksValue .styleFile path fault ∧ .object [] = v ∧ s.warned (styleWarning path fault) = t) ∧
    (∀ fault t, (styleOf c f).run.run s = (.error fault, t) ↔ d.UnreadableValue .styleFile path fault ∧ s = t) ∧
    (∀ css, sheets.1 = .ok css ↔
      ∃ general own, SheetText d (generalSheetPath f) general ∧ SheetText d (ownSheetPath c f) own ∧
        Markup.checkText (wholeSheet s general own) = .ok () ∧ some (wholeSheet s general own) = css) ∧
    (∀ fault, sheets.1 = .error fault ↔ UnreadableSheet c f fault ∨
      ∃ general own, SheetText d (generalSheetPath f) general ∧ SheetText d (ownSheetPath c f) own ∧
        Markup.checkText (wholeSheet s general own) = .error fault) ∧
    { s with log := sheets.2.log } = sheets.2 :=
  ⟨fun _ _ => styleOf_ok_iff hoverride, fun _ _ => styleOf_error_iff hoverride, fun _ => customSheet_ok_iff hs,
    fun _ => customSheet_error_iff hs, customSheet_leaves hs⟩

/-- an article in a style of which there is only a file with the given bytes -/
def styledBy (bytes : List UInt8) : Setting where
  article := { (default : Article) with style := "s" }
  properties := Properties.usual
  resolver := ⟨.usual, ⟨["w"], [(["w"], .folder), (["w", "s.style.json"], .file bytes)]⟩, default, false⟩

/-- folders at the place where a program runs -/
def besides : Folders := ⟨".", "."⟩

section Sample

attribute [local instance] Room.usual

theorem styling_outcome_described : (styledBy [0x7b, 0x7d]).properties.overrideStyles = none ∧
    Observer.empty.registry.at_ .customCss = [] ∧
    (styleOf (styledBy [0x7b, 0x7d]) besides).run.run (.start "x-" .empty) = (.ok (.object []), .start "x-" .empty) ∧
    ((customSheet (styledBy [0x7b, 0x7d]) besides).run.run (.start "x-" .empty)).1 = .ok (some "") := by
  obtain ⟨hdescribed, -, hsheet, -⟩ := styling_outcome (styledBy [0x7b, 0x7d]) besides (.start "x-" .empty) rfl rfl
  have hlacks (path : String) (hbroken : Disk.isBroken path = false)
      (hfind : (styledBy [0x7b, 0x7d]).resolver.disk.find path = .error .notFound) :
      SheetText (styledBy [0x7b, 0x7d]).resolver.disk path "" := .missing (.nowhere hbroken hfind)
  have htext : (styledBy [0x7b, 0x7d]).resolver.disk.HasText (stylePath (styledBy [0x7b, 0x7d]) besides) "{}" :=
    @Disk.HasText.intro _ _ ['{', '}'] (by rfl) (by rfl)
  have hread : Json.load .styleFile "{}" = .ok (.object []) := by rfl
  refine ⟨rfl, rfl, (hdescribed _ _).2 (.inl ⟨.intro htext hread, rfl⟩), (hsheet _).2 ⟨"", "", ?_, ?_, ?_, ?_⟩⟩
  · exact hlacks _ (by rfl) (by rfl)
  · exact hlacks _ (by rfl) (by rfl)
  · rfl
  · rfl

/-- **A byte that no text has**, in the place of a style, stops a conversion, where any other style that is none would
have cost a warning. -/
theorem styleOf_garbled : ¬ ∀ (c : Setting) (f : Folders) (s : State), c.properties.overrideStyles = none →
    s.observer.registry.at_ .customCss = [] → ∃ v t, (styleOf c f).run.run s = (.ok v, t) := by
  intro h
  obtain ⟨v, t, hrun⟩ := h (styledBy [0xff]) besides (.start "x-" .empty) rfl rfl
  have hfails : (styleOf (styledBy [0xff]) besides).run.run (.start "x-" .empty) =
      (.error (.undecodable "'utf-8' codec can't decode byte 0xff in position 0: invalid start byte"),
        .start "x-" .empty) := by
    rfl
  cases hfails.symm.trans hrun

end Sample

end AmpArticle.Page
