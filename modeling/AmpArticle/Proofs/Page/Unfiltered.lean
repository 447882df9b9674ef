import AmpArticle.Page.Document
import AmpArticle.Proofs.Page.Dividers

/-!
Pages without filters. Every value passes the points where filters could stand as it is, and no step of a conversion
registers any, so a document is exactly what its parts are put together to.

Results:
- `Keeping`: a step that leaves the registrations as they are;
- `Stages`, `document_stages`: a document is its root with the head and the body below it, and how these come about;
- `convert_finished`: a conversion makes its document and writes it out;
- `convert_stages`: the text of a page is that of the tree of its stages, with the dividers completed.
-/

namespace AmpArticle.Page

open Markup (Element Node)
open Extension (Observer)

variable {α β : Type} {c : Setting} {s t : State}

/-! ## Steps that register nothing -/

/-- no point has a filter -/
def Unfiltered (o : Observer) : Prop := ∀ p, o.registry.at_ p = []

theorem Unfiltered.gentleAt {o : Observer} (h : Unfiltered o) (p : Extension.Point) : GentleAt o p := by
  intro e he
  rw [h p] at he
  cases he

/-- a step that leaves the registrations as they are when there are no filters -/
def Keeping (x : Rendering α) : Prop := ∀ s a t, Unfiltered s.observer → Runs x s a t → t.observer = s.observer

theorem Steady.keeping {x : Rendering α} {p : α → Prop} (h : Steady x p) : Keeping x :=
  fun s a t hs hrun => (h s a t hrun).1.observer (hs .mapsApiKey)

theorem keeping_bind {x : Rendering α} {f : α → Rendering β} (hx : Keeping x) (hf : ∀ a, Keeping (f a)) :
    Keeping (x >>= f) := by
  intro s b u hs hrun
  obtain ⟨a, t, hxa, hfa⟩ := runs_bind.1 hrun
  have ht := hx s a t hs hxa
  exact (hf a t b u (ht ▸ hs) hfa).trans ht

theorem keeping_pure (a : α) : Keeping (pure a) := (steady_pure (p := fun _ => True) trivial).keeping

theorem keeping_throw (fault : Fault) : Keeping (throw fault : Rendering α) := fun _ _ _ _ hrun => absurd hrun runs_throw

theorem keeping_liftM (x : Except Fault α) : Keeping (liftM x) :=
  (steady_liftM (p := fun _ => True) fun _ _ => trivial).keeping

theorem keeping_get : Keeping get := steady_get.keeping

theorem keeping_modify {g : State → State} (h : ∀ s, (g s).observer = s.observer) : Keeping (modify g) := by
  intro s a t _ hrun
  obtain rfl := runs_modify.1 hrun
  exact h s

theorem keeping_mapM {step : α → Rendering β} (h : ∀ a, Keeping (step a)) (as : List α) : Keeping (as.mapM step) := by
  induction as with
  | nil => exact keeping_pure []
  | cons a as ih =>
    rw [List.mapM_cons]
    exact keeping_bind (h a) fun b => keeping_bind ih fun bs => keeping_pure _

theorem keeping_filter (p : Extension.Point) (v : Extension.Value) (extras : List Extension.Extra) :
    Keeping (Rendering.filter p v extras) := by
  intro s w t hs hrun
  rw [← (filter_unregistered (hs p) hrun).2]

/-- a node passes a point without filters with the text behind it, and leaves at most a line in the log -/
theorem builtFilter_runs {b : Built} {p : Extension.Point} {extras : List Extension.Extra} {r : Option Built}
    (hs : Unfiltered s.observer) (h : Runs (b.filter p extras) s r t) : r = some b ∧ { s with log := t.log } = t := by
  obtain ⟨v, u, hfilter, hend⟩ := runs_bind.1 h
  obtain ⟨rfl, hu⟩ := filter_unregistered (hs p) hfilter
  obtain ⟨rfl, rfl⟩ := runs_pure.1 hend
  exact ⟨rfl, hu⟩

theorem keeping_builtFilter (b : Built) (p : Extension.Point) (extras : List Extension.Extra) :
    Keeping (b.filter p extras) := fun _ _ _ hs hrun => by rw [← (builtFilter_runs hs hrun).2]

/-! ## Parts of a page -/

theorem withMarkup_keeping (e : Element) (markup : String) : Keeping (Rendering.withMarkup e markup) := keeping_liftM _

theorem creditsPart_keeping (credits : Option Credits) : Keeping (creditsPart credits) := by
  unfold creditsPart
  split
  · exact keeping_pure _
  · refine keeping_bind (Rendering.createNamed_steady _ _).keeping fun e => ?_
    split
    · exact keeping_bind (withMarkup_keeping _ _) fun _ => keeping_pure _
    · have hline (text : String) :
          Keeping (do return (← Rendering.withMarkup (← Rendering.create "p" none []) text).toNode) :=
        keeping_bind (Rendering.create_steady _ _ _).keeping fun _ =>
          keeping_bind (withMarkup_keeping _ _) fun _ => keeping_pure _
      exact keeping_bind (keeping_mapM hline _) fun _ => keeping_pure _

theorem copyrightPart_keeping (copyright : Option String) : Keeping (copyrightPart copyright) := by
  unfold copyrightPart
  split
  · exact keeping_pure _
  · exact keeping_bind (Rendering.createNamed_steady _ _).keeping fun _ =>
      keeping_bind (withMarkup_keeping _ _) fun _ => keeping_pure _

theorem footer_keeping (given : Option Footer) : Keeping (footer given) := by
  unfold footer
  split
  · exact keeping_pure _
  · refine keeping_bind (Rendering.createNamed_steady _ _).keeping fun _ => ?_
    refine keeping_bind (creditsPart_keeping _) fun _ => keeping_bind (copyrightPart_keeping _) fun _ => ?_
    exact keeping_builtFilter _ _ _

theorem styleOf_keeping [Room] (c : Setting) (f : Folders) : Keeping (styleOf c f) := by
  have hwarn (message path : String) (cause : Fault) :
      Keeping (do warnFile message path cause; return Json.object []) :=
    keeping_bind (Rendering.warnText_steady _ _ _).keeping fun _ => keeping_pure _
  unfold styleOf
  split
  · exact keeping_pure _
  · dsimp only
    split
    · refine keeping_bind (keeping_liftM _) fun text => ?_
      split
      · exact keeping_pure _
      · exact hwarn _ _ _
      · exact keeping_bind (keeping_throw _) fun _ => keeping_pure _
    · exact hwarn _ _ _
    · exact hwarn _ _ _
    · exact keeping_bind (keeping_throw _) fun _ => keeping_pure _

theorem compileStyle_keeping [Room] (c : Setting) (f : Folders) : Keeping (compileStyle c f) := by
  refine keeping_bind (styleOf_keeping c f) fun given => keeping_bind keeping_get fun s => ?_
  dsimp only
  split
  · exact keeping_throw _
  · exact keeping_bind (keeping_modify fun _ => rfl) fun _ => keeping_pure _

theorem placeLogo_keeping (logo : Option Css.Logo) (nodes : List Node) : Keeping (placeLogo logo nodes) := by
  unfold placeLogo
  split
  · exact keeping_pure _
  · exact keeping_bind (Rendering.createNamed_steady _ _).keeping fun _ =>
      keeping_bind (Rendering.create_steady _ _ _).keeping fun _ => keeping_pure _

theorem placeDate_keeping (published : Option Moment) (pattern : String) (nodes : List Node) :
    Keeping (placeDate published pattern nodes) := by
  unfold placeDate
  split
  · exact keeping_pure _
  · exact keeping_bind (keeping_liftM _) fun _ => keeping_pure _

theorem sheet_keeping (c : Setting) (path : String) : Keeping (sheet c path) := by
  unfold sheet
  split
  · exact keeping_liftM _
  · exact keeping_bind (Rendering.note_steady _).keeping fun _ => keeping_pure _
  · exact keeping_throw _

theorem customSheet_keeping (c : Setting) (f : Folders) : Keeping (customSheet c f) := by
  refine keeping_bind (sheet_keeping c _) fun _ => keeping_bind keeping_get fun _ => ?_
  refine keeping_bind (sheet_keeping c _) fun _ => keeping_bind keeping_get fun _ => ?_
  refine keeping_bind (keeping_filter _ _ _) fun v => ?_
  split
  · exact keeping_bind (keeping_liftM _) fun _ => keeping_pure _
  · exact keeping_pure _
  · exact keeping_throw _

theorem analytics_keeping (markups : List String) : Keeping (analytics markups) := by
  unfold analytics
  split
  · exact keeping_pure _
  · split
    · refine keeping_bind (Rendering.note_steady _).keeping fun _ => ?_
      exact keeping_bind (Rendering.useFeature_steady _).keeping fun _ => keeping_pure _
    · split
      · exact keeping_bind (Rendering.warn_steady _).keeping fun _ => keeping_pure _
      · exact keeping_throw _

theorem addAnalytics_keeping (markups : List String) (body : Element) : Keeping (addAnalytics markups body) :=
  keeping_bind (analytics_keeping markups) fun _ => keeping_pure _

/-! ## Stages -/

/-- the beginning of a page without filters in the making: each part with the run that makes it and the state behind
it -/
structure Beginning [Room] (c : Setting) (s : State) where
  root : Element
  rooted : State
  rootRun : Runs (rootElement c) s root rooted
  rootedUnfiltered : Unfiltered rooted.observer
  /-- what depends on the article in the head -/
  head : Head
  headed : State
  headRun : Runs (headParts c) rooted head headed
  headedUnfiltered : Unfiltered headed.observer
  header : Option Built
  topped : State
  headerRun : Runs (Page.header c c.article.header) headed header topped
  toppedUnfiltered : Unfiltered topped.observer
  content : Element
  filled : State
  contentRun : Runs (Page.content c c.article.items) topped content filled
  filledUnfiltered : Unfiltered filled.observer

/-- a document without filters in the making, from its beginning on -/
structure Stages [Room] (c : Setting) (f : Folders) (s : State) extends Beginning c s where
  footer : Option Built
  footed : State
  footerRun : Runs (Page.footer c.article.footer) filled footer footed
  style : Css.Style
  styled : State
  styleRun : Runs (compileStyle c f) footed style styled
  /-- the header, the content and the footer with the logo, and then with the date -/
  marked : List Node
  logoPlaced : State
  logoRun : Runs (placeLogo style.logo (partNodes header ++ [content.toNode] ++ partNodes footer)) styled marked logoPlaced
  rest : List Node
  dated : State
  dateRun : Runs (placeDate c.article.header.published ((present? style.dateFormat).getD c.properties.dateFormat) marked)
    logoPlaced rest dated
  css : Option String
  sheeted : State
  sheetRun : Runs (customSheet c f) dated css sheeted
  body : Element
  tracked : State
  bodyRun : Runs (addAnalytics c.properties.analytics ((Element.bare "body").append rest)) sheeted body tracked
  /-- the head with the scripts of features -/
  top : Element
  topRun : addFeatureScripts tracked.features (head.assemble css) = .ok top

namespace Stages

variable [Room] {f : Folders}

/-- the document that the stages come to -/
def document (d : Stages c f s) : Element := d.root.append [d.top.toNode, d.body.toNode]

/-- the tree of a finished page: head and body with all dividers completed -/
def finished (d : Stages c f s) : Element :=
  ⟨"html", none, d.root.attributes, [d.tracked.settle d.top.toNode, d.tracked.settle d.body.toNode]⟩

theorem settle_document (d : Stages c f s) : d.tracked.settle d.document.toNode = d.finished.toNode := by
  -- the root is bare but for its attributes
  obtain ⟨htag, hmark, hchildren⟩ := create_new d.rootRun
  simp only [document, finished, Element.append, Element.toNode, State.settle, htag, hmark, hchildren, List.nil_append,
    State.settleAll]

end Stages

/-- **The beginning of a page.** Its root and its head are made before anything else. -/
theorem opening_stages [Room] {page : Opening} (hs : Unfiltered s.observer) (h : Runs (opening c) s page t) :
    ∃ b : Beginning c s, page = ⟨b.root, b.head, b.header, b.content⟩ ∧ b.filled = t := by
  obtain ⟨root, s₁, hroot, hrest⟩ := runs_bind.1 h
  have hs₁ : Unfiltered s₁.observer := by
    rw [(Rendering.create_steady _ _ _).keeping _ _ _ hs hroot]
    exact hs
  obtain ⟨head, s₂, hhead, hrest⟩ := runs_bind.1 hrest
  have hs₂ : Unfiltered s₂.observer := by
    rw [(headParts_extends (hs₁ .schemaOrg) (hs₁ .mapsApiKey) hhead).observer (hs₁ .mapsApiKey)]
    exact hs₁
  obtain ⟨header, s₃, hheader, hrest⟩ := runs_bind.1 hrest
  have hs₃ : Unfiltered s₃.observer := by
    obtain ⟨_, _, _, _, _, _, hadds, -⟩ := header_adds (hs₂.gentleAt .cover) (hs₂ .header) (hs₂ .mapsApiKey) hheader
    rw [hadds.observer]
    exact hs₂
  obtain ⟨content, s₄, hcontent, hend⟩ := runs_bind.1 hrest
  have hs₄ : Unfiltered s₄.observer := by
    obtain ⟨_, _, _, _, hadds, -⟩ := content_adds (hs₃.gentleAt .articleItem) (hs₃ .mapsApiKey) hcontent
    rw [hadds.observer]
    exact hs₃
  obtain ⟨rfl, rfl⟩ := runs_pure.1 hend
  exact ⟨⟨root, s₁, hroot, hs₁, head, s₂, hhead, hs₂, header, s₃, hheader, hs₃, content, s₄, hcontent, hs₄⟩, rfl, rfl⟩

/-- **A document without filters**: its stages, and behind them at most lines in the log. -/
theorem document_stages [Room] {f : Folders} {r : Extension.Value × Option String} (hs : Unfiltered s.observer)
    (h : Runs (document c f) s r t) :
    ∃ d : Stages c f s, r = (.node d.document.toNode true, d.css) ∧ { d.tracked with log := t.log } = t := by
  obtain ⟨page, s₁, hpage, hrest⟩ := runs_bind.1 h
  obtain ⟨b, rfl, rfl⟩ := opening_stages hs hpage
  have hs := b.filledUnfiltered
  obtain ⟨footer, s₂, hfooter, hrest⟩ := runs_bind.1 hrest
  rw [← footer_keeping _ _ _ _ hs hfooter] at hs
  obtain ⟨style, s₃, hstyle, hrest⟩ := runs_bind.1 hrest
  rw [← compileStyle_keeping _ _ _ _ _ hs hstyle] at hs
  obtain ⟨marked, s₄, hlogo, hrest⟩ := runs_bind.1 hrest
  rw [← placeLogo_keeping _ _ _ _ _ hs hlogo] at hs
  obtain ⟨rest, s₅, hdate, hrest⟩ := runs_bind.1 hrest
  rw [← placeDate_keeping _ _ _ _ _ _ hs hdate] at hs
  obtain ⟨css, s₆, hcss, hrest⟩ := runs_bind.1 hrest
  rw [← customSheet_keeping _ _ _ _ _ hs hcss] at hs
  obtain ⟨body, tracked, hbody, hrest⟩ := runs_bind.1 hrest
  rw [← addAnalytics_keeping _ _ _ _ _ hs hbody] at hs
  replace hrest := runs_get_bind.1 hrest
  obtain ⟨top, hscripts, hrest⟩ := runs_liftM_bind.1 hrest
  obtain ⟨_, u, hfilter, hrest⟩ := runs_bind.1 hrest
  obtain ⟨rfl, hu⟩ := builtFilter_runs hs hfilter
  have hunfiltered : Unfiltered u.observer := by
    rw [← hu]
    exact hs
  obtain ⟨_, v, hwhole, hend⟩ := runs_bind.1 hrest
  obtain ⟨rfl, hv⟩ := filter_unregistered (hunfiltered .html) hwhole
  obtain ⟨rfl, rfl⟩ := runs_pure.1 hend
  have hlogged : { tracked with log := v.log } = v := by
    rw [← hv, ← hu]
  exact ⟨⟨b, footer, s₂, hfooter, style, s₃, hstyle, marked, s₄, hlogo, rest, s₅, hdate, css, s₆, hcss, body, tracked,
    hbody, top, hscripts⟩, rfl, hlogged⟩

/-! ## Finished pages -/

mutual
theorem settle_congr (h : s.dividers = t.dividers) : ∀ n : Node, s.settle n = t.settle n
  | .text _ => by simp [State.settle]
  | .comment _ => by simp [State.settle]
  | .element tag mark attributes children => by
    simp only [State.settle, settleAll_congr h children, State.completeDivider, h]

theorem settleAll_congr (h : s.dividers = t.dividers) : ∀ ns : List Node, s.settleAll ns = t.settleAll ns
  | [] => by simp [State.settleAll]
  | n :: rest => by simp [State.settleAll, settle_congr h n, settleAll_congr h rest]
end

/-- the state in which the parts of a page are made: one line is in the log -/
def begun (c : Setting) (o : Observer) : State :=
  { State.start c.properties.classPrefix o with
    log := [⟨.info,
      s!"Converting article {shownAddress c.article} with {c.article.items.length} content nodes"⟩] }

/-- a conversion without filters in the making: its document, and behind that only lines in the log -/
structure Finished [Room] (c : Setting) (f : Folders) (o : Observer) (r : Result) (s : State) where
  stages : Stages c f (begun c o)
  ended : State
  documentRun : Runs (document c f) (begun c o) (.node stages.document.toNode true, stages.css) ended
  tracked : { stages.tracked with log := ended.log } = ended
  logged : { ended with log := s.log } = s
  html : r.html = serialize stages.finished
  css : r.css = stages.css
  warnings : r.warnings = ended.warnings

/-- the tree of a finished page is its document with the dividers completed -/
theorem Finished.tree [Room] {f : Folders} {o : Observer} {r : Result} (d : Finished c f o r s) :
    d.ended.settle d.stages.document.toNode = d.stages.finished.toNode := by
  rw [← d.stages.settle_document]
  exact settle_congr (by rw [← d.tracked]) _

/-- **A conversion without filters** makes its document, and then only writes it out. -/
theorem convert_finished [Room] {f : Folders} {o : Observer} (ho : Unfiltered o) {r : Result}
    (h : convert c f o = (.ok r, s)) : Nonempty (Finished c f o r s) := by
  obtain ⟨_, s₁, hnote, hrest⟩ := runs_bind.1 (show Runs (conversion c f) (State.start _ o) r s from h)
  obtain rfl := runs_modify.1 hnote
  obtain ⟨⟨root, css⟩, s₂, hdocument, hrest⟩ := runs_bind.1 hrest
  obtain ⟨d, hroot, hs₂⟩ := document_stages (show Unfiltered (begun c o).observer from ho) hdocument
  obtain ⟨rfl, rfl⟩ := Prod.mk.inj hroot
  obtain ⟨html, s₃, htext, hrest⟩ := runs_bind.1 hrest
  replace hrest := runs_get_bind.1 hrest
  obtain ⟨_, _, hnote, hend⟩ := runs_bind.1 hrest
  obtain rfl := runs_modify.1 hnote
  obtain ⟨rfl, rfl⟩ := runs_pure.1 hend
  replace htext := runs_get_bind.1 htext
  have hsettle : s₂.settle d.document.toNode = d.finished.toNode := by
    rw [← d.settle_document]
    exact settle_congr (by rw [← hs₂]) _
  simp only [hsettle] at htext
  obtain ⟨rfl, rfl⟩ := runs_pure.1 htext
  exact ⟨⟨d, s₂, hdocument, hs₂, rfl, rfl, rfl, rfl⟩⟩

/-- **A finished page without filters** is the text of the tree that its stages come to. -/
theorem convert_stages [Room] {f : Folders} {o : Observer} (ho : Unfiltered o) {r : Result}
    (h : convert c f o = (.ok r, s)) :
    ∃ d : Stages c f (begun c o), r.html = serialize d.finished ∧ r.css = d.css ∧ s.features = d.tracked.features := by
  obtain ⟨d⟩ := convert_finished ho h
  have hfeatures : s.features = d.stages.tracked.features :=
    (congrArg State.features d.logged).symm.trans (congrArg State.features d.tracked).symm
  exact ⟨d.stages, d.html, d.css, hfeatures⟩

end AmpArticle.Page
