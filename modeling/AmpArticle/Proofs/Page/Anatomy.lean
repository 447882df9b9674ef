import AmpArticle.Proofs.Page.Scripts

/-!
The parts of a finished body. Behind the tracking elements stand the header and the article; the header begins with what
is made for the cover, and the article is a row of nodes for each item. After they are made, only a logo, a date and the
classes of dividers are put into them.

Results:
- `Finishing`: what becomes of nodes once they are made; those without marks stay as they are;
- `Rows`: what is made for each item, one after the other;
- `Stages.anatomy`: a finished body has these parts, and its header the title as its only heading of the first level.
-/

namespace AmpArticle.Page

open Markup (Element Node Mark)

variable {c : Setting} {s t u : State}

/-! ## Nodes of a tag -/

/-- the nodes of a tag -/
def tagged (tag : String) (nodes : List Node) : List Node := nodes.filter fun n => n.tag? == some tag

theorem tagged_append (tag : String) (ns ms : List Node) : tagged tag (ns ++ ms) = tagged tag ns ++ tagged tag ms :=
  List.filter_append ns ms

theorem tagged_eq_nil {tag : String} {nodes : List Node} (h : ∀ n ∈ nodes, n.tag? ≠ some tag) :
    tagged tag nodes = [] :=
  List.filter_eq_nil_iff.2 fun n hn => by simpa using h n hn

/-- a divider, whatever its classes -/
def IsDivider (n : Node) : Prop := ∃ number attributes, n = .element "div" (some (.divider number)) attributes []

theorem IsDivider.tag {n : Node} (h : IsDivider n) : n.tag? = some "div" := by
  obtain ⟨_, _, rfl⟩ := h
  rfl

theorem IsDivider.customsIn {n : Node} (h : IsDivider n) : Markup.Node.customsIn [n] = [] := by
  obtain ⟨number, attributes, rfl⟩ := h
  have hplain : Markup.isCustomTag "div" = false := by decide
  exact (Markup.Node.customsIn_frame (e := ⟨"div", some (.divider number), attributes, []⟩) hplain).trans
    Markup.Node.customsIn_nil

theorem divider_isDivider {kind : String} {n : Node} (h : Runs (Rendering.divider kind) s n t) : IsDivider n := by
  rw [← (divider_runs h).1]
  exact ⟨_, _, rfl⟩

theorem withDivider_nodes {e : Element} {kind : String} {nodes : List Node} (h : Runs (withDivider e kind) s nodes t) :
    ∃ d, IsDivider d ∧ nodes = [e.toNode, d] := by
  obtain ⟨d, _, hdivider, hend⟩ := runs_bind.1 h
  exact ⟨d, divider_isDivider hdivider, (runs_pure.1 hend).1.symm⟩

/-- a node of another tag and its divider are not of a tag -/
theorem tagged_pair {tag : String} {n d : Node} (hn : n.tag? ≠ some tag) (hdiv : "div" ≠ tag) (hd : IsDivider d) :
    tagged tag [n, d] = [] := by
  refine tagged_eq_nil ?_
  rw [List.forall_mem_cons, List.forall_mem_singleton, hd.tag]
  exact ⟨hn, fun h => hdiv (Option.some.inj h)⟩

/-! ## What becomes of nodes -/

/-- what becomes of nodes after they are made: they keep their tags, and those without marks stay as they are -/
structure Finishing (g : Node → Node) : Prop where
  tag : ∀ n, (g n).tag? = n.tag?
  unmarked : ∀ n, n.isUnmarked = true → g n = n
  frame : ∀ e : Element, e.mark = none → g e.toNode = ({ e with children := e.children.map g } : Element).toNode
  divider : ∀ n, IsDivider n → IsDivider (g n)

namespace Finishing

variable {g h : Node → Node}

theorem refl : Finishing id := ⟨fun _ => rfl, fun _ _ => rfl, fun e _ => by simp, fun _ hn => hn⟩

theorem comp (hg : Finishing g) (hh : Finishing h) : Finishing (g ∘ h) where
  tag n := by rw [Function.comp_apply, hg.tag, hh.tag]
  unmarked n hn := by rw [Function.comp_apply, hh.unmarked n hn, hg.unmarked n hn]
  frame e he := by
    rw [Function.comp_apply, hh.frame e he]
    have houter := hg.frame { e with children := e.children.map h } he
    simpa using houter
  divider n hn := hg.divider _ (hh.divider n hn)

theorem tagged_map (hg : Finishing g) (tag : String) (ns : List Node) : tagged tag (ns.map g) = (tagged tag ns).map g := by
  rw [tagged, tagged, List.filter_map]
  refine congrArg _ (List.filter_congr fun n _ => ?_)
  rw [Function.comp_apply, hg.tag]

end Finishing

theorem mapMarkedAll_eq_map (mark : Mark) (f : Element → Element) (ns : List Node) :
    Node.mapMarkedAll mark f ns = ns.map (·.mapMarked mark f) := by
  induction ns with
  | nil => rw [Node.mapMarkedAll, List.map_nil]
  | cons n ns ih => rw [Node.mapMarkedAll, List.map_cons, ih]

theorem settleAll_eq_map (s : State) (ns : List Node) : s.settleAll ns = ns.map s.settle := by
  induction ns with
  | nil => rw [State.settleAll, List.map_nil]
  | cons n ns ih => rw [State.settleAll, List.map_cons, ih]

theorem finishing_mapMarked {mark : Mark} {f : Element → Element} (hmark : ∀ number, mark ≠ .divider number)
    (hf : ∀ e, (f e).tag = e.tag) : Finishing (·.mapMarked mark f) where
  tag n := by
    cases n with
    | text content => simp [Node.mapMarked]
    | comment content => simp [Node.mapMarked]
    | element tag m attributes children =>
      simp only [Node.mapMarked]
      split
      · exact congrArg some (hf _)
      · rfl
  unmarked n hn := Node.mapMarked_unmarked mark f hn
  frame e he := by simp [Element.toNode, Node.mapMarked, he, mapMarkedAll_eq_map]
  divider n hn := by
    obtain ⟨number, attributes, rfl⟩ := hn
    refine ⟨number, attributes, ?_⟩
    simp only [Node.mapMarked, Option.some.injEq, Ne.symm (hmark number), if_false, Node.mapMarkedAll]

theorem finishing_settle (s : State) : Finishing s.settle where
  tag n := by
    cases n with
    | text content => simp [State.settle]
    | comment content => simp [State.settle]
    | element tag m attributes children =>
      simp only [State.settle, State.completeDivider]
      split
      · split <;> rfl
      · rfl
  unmarked n hn := settle_free s n (Node.isFree_of_unmarked hn)
  frame e he := by simp [Element.toNode, State.settle, he, settleAll_eq_map]
  divider n hn := by
    obtain ⟨number, attributes, rfl⟩ := hn
    simp only [State.settle, State.completeDivider, State.settleAll]
    split
    · exact ⟨number, _, rfl⟩
    · exact ⟨number, _, rfl⟩

theorem placeLogo_finishing {logo : Option Css.Logo} {nodes marked : List Node}
    (h : Runs (placeLogo logo nodes) s marked t) : ∃ g, Finishing g ∧ marked = nodes.map g := by
  unfold placeLogo at h
  split at h
  · obtain ⟨rfl, -⟩ := runs_pure.1 h
    exact ⟨id, .refl, (List.map_id _).symm⟩
  · obtain ⟨holder, _, -, hrest⟩ := runs_bind.1 h
    obtain ⟨picture, -, rfl⟩ := runs_map.1 hrest
    refine ⟨_, ?_, mapMarkedAll_eq_map _ _ _⟩
    exact finishing_mapMarked (fun _ h => by cases h) fun _ => rfl

theorem placeDate_finishing {published : Option Moment} {pattern : String} {nodes marked : List Node}
    (h : Runs (placeDate published pattern nodes) s marked t) : ∃ g, Finishing g ∧ marked = nodes.map g := by
  unfold placeDate at h
  split at h
  · obtain ⟨rfl, -⟩ := runs_pure.1 h
    exact ⟨id, .refl, (List.map_id _).symm⟩
  · obtain ⟨_, -, rfl⟩ := runs_map.1 h
    refine ⟨_, ?_, mapMarkedAll_eq_map _ _ _⟩
    exact finishing_mapMarked (fun _ h => by cases h) fun _ => rfl

/-- what becomes of the header, the content and the footer of a page -/
theorem Stages.finishing [Room] {f : Folders} (d : Stages c f s) :
    ∃ g, Finishing g ∧ d.tracked.settleAll d.rest = d.parts.map g := by
  obtain ⟨g, hg, hlogo⟩ := placeLogo_finishing d.logoRun
  obtain ⟨h, hh, hdate⟩ := placeDate_finishing d.dateRun
  refine ⟨d.tracked.settle ∘ h ∘ g, (finishing_settle _).comp (hh.comp hg), ?_⟩
  rw [settleAll_eq_map, hdate, hlogo, List.map_map, List.map_map]
  rfl

/-! ## Lines -/

section Lines

variable {nodes : List Node} {tag : String} {markup : Option String}

/-- what a line of markup comes to: an element that holds what the markup brings, with its divider; or nothing -/
inductive IsLine (tag : String) : Option String → List Node → Prop where
  | absent : IsLine tag none []
  | present {text : String} {e : Element} {d : Node} : e.tag = tag → e.isUnmarked = true →
      e.children = Markup.taken text → IsDivider d → IsLine tag (some text) [e.toNode, d]

/-- a line stays one when it is finished -/
theorem IsLine.map {g : Node → Node} (hg : Finishing g) (h : IsLine tag markup nodes) :
    IsLine tag markup (nodes.map g) := by
  cases h with
  | absent => exact .absent
  | present htag hunmarked hchildren hd =>
    rw [List.map_cons, List.map_singleton, hg.unmarked _ hunmarked]
    exact .present htag hunmarked hchildren (hg.divider _ hd)

/-- there is a line just when there is markup -/
theorem IsLine.eq_nil_iff (h : IsLine tag markup nodes) : nodes = [] ↔ markup = none := by
  cases h with
  | absent => exact iff_of_true rfl rfl
  | present => exact iff_of_false (List.cons_ne_nil _ _) (Option.some_ne_none _)

/-- the text of a line is that of what the markup brings -/
theorem IsLine.text {text : String} (hdiv : "div" ≠ tag) (h : IsLine tag (some text) nodes) :
    (tagged tag nodes).map Node.textContent = [Node.textContents (Markup.taken text)] := by
  cases h with
  | present htag _ hchildren hd =>
    have hother : (some "div" == some tag) = false := by simpa using hdiv
    rw [tagged, List.filter_cons, List.filter_singleton, hd.tag, hother]
    simp [Element.toNode, Node.tag?, htag, Node.textContent, hchildren]

theorem IsLine.tagged_ne {tag' : String} (htag : tag ≠ tag') (hdiv : "div" ≠ tag') (h : IsLine tag markup nodes) :
    tagged tag' nodes = [] := by
  cases h with
  | absent => rfl
  | present he _ _ hd =>
    refine tagged_pair (fun h => htag ?_) hdiv hd
    rw [← he]
    exact Option.some.inj h

/-- an element of a class that takes markup over -/
theorem filled_runs {name text : String} {e f : Element} (hnew : Runs (Rendering.createNamed tag name) s e t)
    (hfull : Runs (Rendering.withMarkup e text) t f u) :
    f.tag = tag ∧ f.isUnmarked = true ∧ f.children = Markup.taken text := by
  have hunmarked := (Rendering.createNamed_steady _ _ _ _ _ hnew).2
  obtain ⟨hfull, -⟩ := runs_liftM.1 hfull
  obtain ⟨htag, -, hchildren⟩ := create_new hnew
  refine ⟨(Markup.appendMarkup_tag hfull).1.trans htag, Markup.appendMarkup_unmarked hunmarked hfull, ?_⟩
  rw [Markup.appendMarkup_eq hfull, Element.append, hchildren]
  rfl

theorem linePart_isLine {kind : String} (h : Runs (linePart tag kind markup) s nodes t) :
    IsLine tag (markup.filter fun text => !text.isEmpty) nodes := by
  unfold linePart at h
  split at h
  · rename_i habsent
    rw [← (runs_pure.1 h).1, habsent]
    exact .absent
  · rename_i text hpresent
    obtain ⟨e₀, s₁, hnew, hrest⟩ := runs_bind.1 h
    obtain ⟨e, s₂, hfull, hline⟩ := runs_bind.1 hrest
    obtain ⟨d, hd, rfl⟩ := withDivider_nodes hline
    obtain ⟨htag, hunmarked, hchildren⟩ := filled_runs hnew hfull
    rw [hpresent]
    exact .present htag hunmarked hchildren hd

end Lines

/-! ## Headers -/

section Headers

variable {nodes : List Node}

/-- a line without text of the article, with its divider -/
theorem withDivider_tagged {e : Element} {kind tag : String} (he : e.tag ≠ tag) (htag : "div" ≠ tag)
    (h : Runs (withDivider e kind) s nodes t) : tagged tag nodes = [] := by
  obtain ⟨d, hd, rfl⟩ := withDivider_nodes h
  exact tagged_pair (fun h => he (Option.some.inj h)) htag hd

theorem barPart_tagged {tag : String} (htag : "div" ≠ tag) (h : Runs barPart s nodes t) : tagged tag nodes = [] := by
  obtain ⟨e, _, hnew, hline⟩ := runs_bind.1 h
  obtain ⟨rfl, -⟩ := createNamed_runs rfl hnew
  exact withDivider_tagged htag htag hline

theorem bylinePart_tagged {authors : List Author} {tag : String} (htag : "h3" ≠ tag) (hdiv : "div" ≠ tag)
    (h : Runs (bylinePart authors) s nodes t) : tagged tag nodes = [] := by
  unfold bylinePart at h
  dsimp only at h
  split at h
  · rw [← (runs_pure.1 h).1]
    rfl
  · obtain ⟨e, _, hnew, hrest⟩ := runs_bind.1 h
    obtain ⟨f, _, htext, hline⟩ := runs_bind.1 hrest
    obtain ⟨rfl, -⟩ := createNamed_runs rfl hnew
    obtain ⟨hshape, -⟩ := setText_shape (runs_liftM.1 htext).1
    exact withDivider_tagged (hshape ▸ htag) hdiv hline

theorem datePart_tagged {published : Option Moment} {tag : String} (htag : "h3" ≠ tag) (hdiv : "div" ≠ tag)
    (h : Runs (datePart published) s nodes t) : tagged tag nodes = [] := by
  unfold datePart at h
  split at h
  · rw [← (runs_pure.1 h).1]
    rfl
  · obtain ⟨e, _, hnew, hline⟩ := runs_bind.1 h
    obtain ⟨rfl, -⟩ := createNamed_runs rfl hnew
    exact withDivider_tagged htag hdiv hline

/-- the element around media is a figure when there is a caption -/
theorem figure_tag {e : Element} {caption : Option Caption} {b : Built} (h : Runs (figure e caption) s b t) :
    b.node.tag? = some e.tag ∨ b.node.tag? = some "figure" := by
  unfold figure at h
  cases caption with
  | none =>
    obtain ⟨rfl, -⟩ := runs_pure.1 h
    exact .inl rfl
  | some caption =>
    obtain ⟨holder, _, hholder, hrest⟩ := runs_bind.1 h
    obtain ⟨_, _, -, hrest⟩ := runs_bind.1 hrest
    obtain ⟨_, -, rfl⟩ := runs_map.1 hrest
    obtain ⟨rfl, -⟩ := createNamed_runs rfl hholder
    exact .inr rfl

/-- a clipped image stands in a box -/
theorem clippedImage_tag {url : String} {size : Media.Size} {style : ImageStyle} {e : Element}
    (h : Runs (clippedImage url size style) s e t) : e.tag = "div" := by
  obtain ⟨_, _, -, hrest⟩ := runs_bind.1 h
  obtain ⟨box, _, hbox, hrest⟩ := runs_bind.1 hrest
  obtain ⟨_, _, -, hrest⟩ := runs_bind.1 hrest
  obtain ⟨_, _, -, hrest⟩ := runs_bind.1 hrest
  obtain ⟨_, _, -, hrest⟩ := runs_bind.1 hrest
  obtain ⟨_, _, -, hrest⟩ := runs_bind.1 hrest
  obtain ⟨_, _, -, hrest⟩ := runs_bind.1 hrest
  obtain ⟨_, _, -, hrest⟩ := runs_bind.1 hrest
  obtain ⟨_, _, -, hend⟩ := runs_bind.1 hrest
  rw [← (runs_pure.1 hend).1, Element.append, (create_new hbox).1]

/-- the tags that what is made for a cover may have -/
def coverTags : List String := ["figure", "div", "amp-video", "amp-carousel"]

theorem figure_coverTags {e : Element} {caption : Option Caption} {b : Built} (he : e.tag ∈ coverTags)
    (h : Runs (figure e caption) s b t) : ∃ tag ∈ coverTags, b.node.tag? = some tag := by
  rcases figure_tag h with h | h
  · exact ⟨_, he, h⟩
  · exact ⟨_, List.mem_cons_self, h⟩

theorem slideshow_tag {shown : Slideshow} {name : String} {b : Built} (h : Runs (slideshow c shown name) s b t) :
    ∃ tag ∈ coverTags, b.node.tag? = some tag := by
  cases himages : shown.images with
  | nil =>
    unfold slideshow at h
    rw [himages] at h
    obtain ⟨_, _, -, hrest⟩ := runs_bind.1 h
    obtain ⟨e, hnew, rfl⟩ := runs_map.1 hrest
    exact ⟨"div", by decide, congrArg some (create_new hnew).1⟩
  | cons p ps =>
    obtain ⟨first, slides, _, _, _, -, -, -, hfigure⟩ := slideshow_runs himages h
    refine figure_coverTags ?_ hfigure
    rw [Element.append, (carouselElement_measures s.classPrefix name first.2).1]
    decide

theorem cover_tag {given : Cover} {b : Built} (h : Runs (cover c given) s b t) :
    ∃ tag ∈ coverTags, b.node.tag? = some tag := by
  cases given with
  | image p =>
    obtain ⟨_, _, -, hrest⟩ := runs_bind.1 (show Runs (image c p ImageStyle.cover) s b t from h)
    obtain ⟨e, _, himage, hend⟩ := runs_bind.1 hrest
    exact figure_coverTags (by rw [clippedImage_tag himage]; decide) hend
  | video p =>
    obtain ⟨_, _, -, hrest⟩ := runs_bind.1 h
    obtain ⟨_, _, -, hrest⟩ := runs_bind.1 hrest
    obtain ⟨e, _, hvideo, hrest⟩ := runs_bind.1 hrest
    obtain ⟨_, _, -, hend⟩ := runs_bind.1 hrest
    exact figure_coverTags (by rw [(create_new hvideo).1]; decide) hend
  | slideshow shown => exact slideshow_tag h

/-- what stands for a part that passes a point without filters: the part with its divider -/
theorem passed_nodes {b : Built} {p : Extension.Point} {extras : List Extension.Extra} {kind : String}
    (hs : Unfiltered s.observer)
    (h : Runs (do
      match ← b.filter p extras with
      | none => return []
      | some built => return built.nodes ++ [← Rendering.divider kind]) s nodes t) :
    ∃ d, IsDivider d ∧ nodes = b.nodes ++ [d] := by
  obtain ⟨_, _, hfilter, hrest⟩ := runs_bind.1 h
  obtain ⟨rfl, -⟩ := builtFilter_runs hs hfilter
  obtain ⟨d, _, hdivider, hend⟩ := runs_bind.1 hrest
  exact ⟨d, divider_isDivider hdivider, (runs_pure.1 hend).1.symm⟩

/-- what stands for a cover: what is made for it, with its divider -/
theorem coverPart_nodes {given : Cover} (hs : Unfiltered s.observer) (h : Runs (coverPart c (some given)) s nodes t) :
    ∃ b u d, Runs (cover c given) s b u ∧ b.Single ∧ IsDivider d ∧ nodes = [b.node, d] := by
  obtain ⟨b, u, hcover, hrest⟩ := runs_bind.1 h
  have hsingle := (cover_steady c given _ _ _ hcover).2
  rw [← (cover_steady c given).keeping _ _ _ hs hcover] at hs
  obtain ⟨d, hd, rfl⟩ := passed_nodes hs hrest
  exact ⟨b, u, d, hcover, hsingle, hd, by rw [Built.nodes, hsingle.alone]; rfl⟩

theorem coverPart_tagged {given : Option Cover} {tag : String} (hs : Unfiltered s.observer) (htag : tag ∉ coverTags)
    (h : Runs (coverPart c given) s nodes t) : tagged tag nodes = [] := by
  cases given with
  | none =>
    rw [← (runs_pure.1 h).1]
    rfl
  | some given =>
    obtain ⟨b, _, d, hcover, -, hd, rfl⟩ := coverPart_nodes hs h
    obtain ⟨tag', hmem, htag'⟩ := cover_tag hcover
    refine tagged_pair (fun h => htag ?_) (fun h => htag ?_) hd
    · rw [← Option.some.inj (htag'.symm.trans h)]
      exact hmem
    · rw [← h]
      decide

/-- **A header** begins with what stands for its cover, and has its title as its only heading of the first level. -/
theorem header_children {given : Header} {r : Option Built} (hs : Unfiltered s.observer)
    (h : Runs (header c given) s r t) :
    ∃ (e : Element) (cover lines title : List Node) (u v : State), r = some (.ofElement e) ∧ e.tag = "header" ∧
      e.mark = none ∧ Unfiltered u.observer ∧ Runs (coverPart c given.cover) u cover v ∧ e.children = cover ++ lines ∧
      IsLine "h1" (given.title.filter fun text => !text.isEmpty) title ∧
      tagged "h1" (cover ++ lines) = tagged "h1" title := by
  obtain ⟨e, nodes, s₀, s₇, hnew, hs₀, hparts, rfl, -⟩ := header_runs hs h
  obtain ⟨rfl, -⟩ := createNamed_runs rfl hnew
  obtain ⟨cover, s₁, hcover, hparts⟩ := runs_bind.1 hparts
  obtain ⟨bar, s₂, hbar, hparts⟩ := runs_bind.1 hparts
  obtain ⟨kicker, s₃, hkicker, hparts⟩ := runs_bind.1 hparts
  obtain ⟨title, s₄, htitle, hparts⟩ := runs_bind.1 hparts
  obtain ⟨subtitle, s₅, hsubtitle, hparts⟩ := runs_bind.1 hparts
  obtain ⟨authors, s₆, hauthors, hparts⟩ := runs_bind.1 hparts
  obtain ⟨date, hdate, rfl⟩ := runs_map.1 hparts
  have hcover' : tagged "h1" cover = [] := coverPart_tagged hs₀ (by decide) hcover
  have hbar' : tagged "h1" bar = [] := barPart_tagged (by decide) hbar
  have hkicker' : tagged "h1" kicker = [] := (linePart_isLine hkicker).tagged_ne (by decide) (by decide)
  have hsubtitle' : tagged "h1" subtitle = [] := (linePart_isLine hsubtitle).tagged_ne (by decide) (by decide)
  have hauthors' : tagged "h1" authors = [] := bylinePart_tagged (by decide) (by decide) hauthors
  have hdate' : tagged "h1" date = [] := datePart_tagged (by decide) (by decide) hdate
  refine ⟨_, cover, bar ++ kicker ++ title ++ subtitle ++ authors ++ date, title, s₀, s₁, rfl, rfl, rfl, hs₀, hcover, ?_,
    linePart_isLine htitle, ?_⟩
  · simp [Element.append]
  · simp only [tagged_append, hcover', hbar', hkicker', hsubtitle', hauthors', hdate', List.nil_append, List.append_nil]

end Headers

/-! ## Articles -/

variable [Room]

/-- what is made for items, one after the other -/
inductive Rows (c : Setting) : State → List (Item × List Node) → State → Prop where
  | nil {s : State} : Rows c s [] s
  | cons {i : Item} {nodes : List Node} {rest : List (Item × List Node)} {s t u : State} :
    Runs (contentPart c i) s nodes t → Rows c t rest u → Rows c s ((i, nodes) :: rest) u

theorem contentParts_rows {items : List Item} {nodes : List Node} (h : Runs (contentParts c items) s nodes t) :
    ∃ rows, Rows c s rows t ∧ rows.map Prod.fst = items ∧ rows.flatMap Prod.snd = nodes := by
  induction items generalizing s nodes with
  | nil =>
    obtain ⟨rfl, rfl⟩ := runs_pure.1 h
    exact ⟨[], .nil, rfl, rfl⟩
  | cons i items ih =>
    obtain ⟨first, _, hfirst, hrest⟩ := runs_bind.1 h
    obtain ⟨others, hothers, rfl⟩ := runs_map.1 hrest
    obtain ⟨rows, hrows, hitems, rfl⟩ := ih hothers
    exact ⟨(i, first) :: rows, .cons hfirst hrows, by rw [List.map_cons, hitems], List.flatMap_cons⟩

/-- **An article** is what is made for its items. -/
theorem content_rows {items : List Item} {e : Element} (hs : Unfiltered s.observer)
    (h : Runs (content c items) s e t) :
    ∃ rows u, e.tag = "article" ∧ e.mark = none ∧ Unfiltered u.observer ∧ Rows c u rows t ∧
      rows.map Prod.fst = items ∧ e.children = rows.flatMap Prod.snd := by
  obtain ⟨e₀, u, hnew, hrest⟩ := runs_bind.1 h
  rw [← (Rendering.createNamed_steady _ _).keeping _ _ _ hs hnew] at hs
  obtain ⟨rfl, -⟩ := createNamed_runs rfl hnew
  obtain ⟨nodes, hparts, rfl⟩ := runs_map.1 hrest
  obtain ⟨rows, hrows, hitems, hnodes⟩ := contentParts_rows hparts
  exact ⟨rows, u, rfl, rfl, hs, hrows, hitems, by rw [hnodes]; rfl⟩

/-- each row is made for its item -/
theorem Rows.mem {rows : List (Item × List Node)} (hs : Unfiltered s.observer) (h : Rows c s rows t)
    {row : Item × List Node} (hrow : row ∈ rows) :
    ∃ u v, Unfiltered u.observer ∧ Runs (contentPart c row.1) u row.2 v := by
  induction h with
  | nil => cases hrow
  | cons hrun _ ih =>
    rcases List.mem_cons.1 hrow with rfl | hrow
    · exact ⟨_, _, hs, hrun⟩
    · obtain ⟨_, -, hadds⟩ := contentPart_adds (hs.gentleAt .articleItem) (hs .mapsApiKey) hrun
      exact ih (hadds.observer ▸ hs) hrow

/-- what stands for an item that is built: it with its divider -/
theorem contentPart_nodes {i : Item} {nodes : List Node} (hs : Unfiltered s.observer) (hblank : i.isBlank = false)
    (hknown : ∀ kind, i ≠ .other kind) (h : Runs (contentPart c i) s nodes t) :
    ∃ r u, Runs (item c i) s r u ∧ ∀ b, r = some b → b.Clean ∧ ∃ d, IsDivider d ∧ nodes = b.nodes ++ [d] := by
  unfold contentPart at h
  split at h
  · rename_i hblank'
    rw [hblank] at hblank'
    cases hblank'
  · split at h
    · exact absurd rfl (hknown _)
    · obtain ⟨r, u, hitem, hrest⟩ := runs_bind.1 h
      rw [← (item_steady c i).keeping _ _ _ hs hitem] at hs
      refine ⟨r, u, hitem, ?_⟩
      rintro b rfl
      exact ⟨(item_clean c i _ _ _ hitem).2 b rfl, passed_nodes hs hrest⟩

/-! ## Bodies -/

/-- the parts of a finished body, and how they are made -/
structure Anatomy (c : Setting) (body : Element) where
  header : Element
  article : Element
  /-- the tracking elements -/
  before : List Node
  /-- the footer -/
  after : List Node
  children : body.children = before ++ header.toNode :: article.toNode :: after
  headerTag : header.tag = "header"
  articleTag : article.tag = "article"
  /-- what stands for the cover -/
  cover : List Node
  lines : List Node
  headerChildren : header.children = cover ++ lines
  /-- what stands for each item -/
  rows : List (Item × List Node)
  articleChildren : article.children = rows.flatMap Prod.snd
  items : rows.map Prod.fst = c.article.items
  finish : Node → Node
  finishing : Finishing finish
  coverMade : ∃ s nodes t, Unfiltered s.observer ∧ Runs (coverPart c c.article.header.cover) s nodes t ∧
    cover = nodes.map finish
  rowsMade : ∃ s made t, Unfiltered s.observer ∧ Rows c s made t ∧ rows = made.map fun x => (x.1, x.2.map finish)

/-- each row of a finished body is made for its item, and then finished -/
theorem Anatomy.row {body : Element} (a : Anatomy c body) {row : Item × List Node} (hrow : row ∈ a.rows) :
    ∃ u nodes v, Unfiltered u.observer ∧ Runs (contentPart c row.1) u nodes v ∧ row.2 = nodes.map a.finish := by
  obtain ⟨w, made, _, hw, hrows, hmade⟩ := a.rowsMade
  rw [hmade] at hrow
  obtain ⟨x, hx, rfl⟩ := List.mem_map.1 hrow
  obtain ⟨u, v, hu, hrun⟩ := hrows.mem hw hx
  exact ⟨u, x.2, v, hu, hrun, rfl⟩

/-- **The parts of a finished body.** -/
theorem Stages.anatomy {f : Folders} (d : Stages c f s) : ∃ a : Anatomy c d.finishedBody,
    ∃ title, IsLine "h1" (c.article.header.title.filter fun text => !text.isEmpty) title ∧
      tagged "h1" a.header.children = tagged "h1" title := by
  obtain ⟨g, hg, hrest⟩ := d.finishing
  obtain ⟨e, cover, lines, title, u, v, hheader, htag, hmark, hu, hcover, hchildren, htitle, htagged⟩ :=
    header_children d.headedUnfiltered d.headerRun
  obtain ⟨rows, w, htag', hmark', hw, hrows, hitems, hchildren'⟩ := content_rows d.toppedUnfiltered d.contentRun
  have hparts : d.parts.map g = ({ e with children := e.children.map g } : Element).toNode ::
      ({ d.content with children := d.content.children.map g } : Element).toNode :: (partNodes d.footer).map g := by
    rw [parts, hheader]
    simp [partNodes, Built.nodes, Built.ofElement, hg.frame e hmark, hg.frame d.content hmark']
  refine ⟨{
    header := { e with children := e.children.map g }
    article := { d.content with children := d.content.children.map g }
    before := insertedTracking c.properties.analytics
    after := (partNodes d.footer).map g
    children := by rw [finishedBody, hrest, hparts]
    headerTag := htag
    articleTag := htag'
    cover := cover.map g
    lines := lines.map g
    headerChildren := by rw [hchildren, List.map_append]
    rows := rows.map fun x => (x.1, x.2.map g)
    articleChildren := by simp [hchildren', List.map_flatMap, List.flatMap_map]
    items := by rw [List.map_map]; exact hitems
    finish := g
    finishing := hg
    coverMade := ⟨u, cover, v, hu, hcover, rfl⟩
    rowsMade := ⟨w, rows, _, hw, hrows, rfl⟩ }, title.map g, htitle.map hg, ?_⟩
  show tagged "h1" (e.children.map g) = tagged "h1" (title.map g)
  rw [hg.tagged_map, hchildren, htagged, hg.tagged_map]

end AmpArticle.Page
