import AmpArticle.Proofs.Page.Analytics
import AmpArticle.Proofs.Page.Elements
import AmpArticle.Proofs.Page.Head

/-!
The custom elements in the body of a page, and the features that are used for them: those that the builders make for the
cover and the items, those that the markup of the article brings, and the tracking elements of the options.

Results:
- `header_weaves`, `content_weaves`, `footer_weaves`: the parts of a body;
- `Stages.rest_count`: how many elements of a feature's tag stand in a body behind its tracking elements;
- `Stages.mem_features`: which features are used in the end.
-/

namespace AmpArticle.Page

open Markup (Element Node Start isCustomTag customsOf)
open Markup.Node (customsIn tagsIn)

variable {c : Setting} {s t u : State}

/-! ## Lines and dividers -/

section Lines

variable {e : Element} {own : List Start} {texts : List String} {nodes : List Node}

theorem divider_weaves {kind : String} {n : Node} (h : Runs (Rendering.divider kind) s n t) : Weaves s [n] [] [] t := by
  have hquiet := Rendering.divider_quiet _ _ _ _ h
  obtain ⟨rfl, -⟩ := divider_runs h
  have hdivider : customsIn [openDivider s.classPrefix s.rules.spacing s.dividers.length kind] = [] := by
    show customsIn [(⟨"div", _, _, []⟩ : Element).toNode] = []
    rw [Markup.Node.customsIn_frame (show isCustomTag "div" = false by decide), Markup.Node.customsIn_nil]
  exact (weaves_none hquiet).perm (by rw [hdivider, Markup.Node.customsIn_nil])

theorem withDivider_weaves {kind : String} (he : Weaves s [e.toNode] own texts t)
    (h : Runs (withDivider e kind) t nodes u) : Weaves s nodes own texts u := by
  obtain ⟨d, hdivider, rfl⟩ := runs_map.1 h
  simpa only [List.append_nil, List.singleton_append] using he.append (divider_weaves hdivider)

/-- a mark makes no difference -/
theorem Weaves.withMark (h : Weaves s [e.toNode] own texts t) (mark : Option Markup.Mark) :
    Weaves s [({ e with mark := mark } : Element).toNode] own texts t :=
  h.perm (by rw [Markup.Node.customsIn_toNode, Markup.Node.customsIn_toNode]; exact List.Perm.refl _)

theorem barPart_weaves (h : Runs barPart s nodes t) : Weaves s nodes [] [] t := by
  obtain ⟨e, _, hnew, hline⟩ := runs_bind.1 h
  exact withDivider_weaves ((weaves_plain (by decide) hnew).withMark _) hline

theorem linePart_weaves {tag kind : String} {markup : Option String} (htag : isCustomTag tag = false)
    (h : Runs (linePart tag kind markup) s nodes t) : Weaves s nodes [] markup.toList t := by
  unfold linePart at h
  split at h
  · rename_i habsent
    obtain ⟨rfl, rfl⟩ := runs_pure.1 h
    cases markup with
    | none => exact weaves_none rfl
    | some text =>
      have hempty : text.isEmpty = true := by simpa [Option.filter] using habsent
      exact (weaves_none rfl).idle hempty
  · rename_i text hpresent
    obtain ⟨hmarkup, -⟩ := Option.filter_eq_some_iff.1 hpresent
    obtain ⟨e₀, _, hnew, hrest⟩ := runs_bind.1 h
    obtain ⟨e, _, hfull, hline⟩ := runs_bind.1 hrest
    rw [hmarkup]
    exact withDivider_weaves ((weaves_plain htag hnew).markup hfull) hline

theorem bylinePart_weaves {authors : List Author} (h : Runs (bylinePart authors) s nodes t) :
    Weaves s nodes [] [] t := by
  unfold bylinePart at h
  dsimp only at h
  split at h
  · obtain ⟨rfl, rfl⟩ := runs_pure.1 h
    exact weaves_none rfl
  · obtain ⟨e, _, hnew, hrest⟩ := runs_bind.1 h
    obtain ⟨f, hf, hline⟩ := runs_liftM_bind.1 hrest
    have hweaves := weaves_plain (by decide) hnew
    obtain ⟨_, -, hset⟩ := bind_ok_iff.1 hf
    obtain rfl := pure_ok_iff.1 hset
    obtain ⟨htag, -, hchildren⟩ := create_new hnew
    refine withDivider_weaves (hweaves.perm ?_) hline
    rw [Markup.Node.customsIn_frame (by rw [htag]; decide), Markup.Node.customsIn_frame (by rw [htag]; decide),
      hchildren]
    simp only [Node.dropText, List.dropWhile_nil, List.append_nil, Markup.Node.customsIn_nil]
    split
    · exact List.Perm.refl _
    · rw [Markup.Node.customsIn_of_isText (by simp [Node.isText])]

theorem datePart_weaves {published : Option Moment} (h : Runs (datePart published) s nodes t) :
    Weaves s nodes [] [] t := by
  unfold datePart at h
  split at h
  · obtain ⟨rfl, rfl⟩ := runs_pure.1 h
    exact weaves_none rfl
  · obtain ⟨e, _, hnew, hline⟩ := runs_bind.1 h
    exact withDivider_weaves ((weaves_plain (by decide) hnew).withMark _) hline

end Lines

/-! ## Header, content and footer -/

/-- a cover as an item, if there is one -/
def coverItems (cover : Option Cover) : List Item := (cover.map Cover.toItem).toList

/-- the items that are not blank -/
def shownItems (items : List Item) : List Item := items.filter fun i => !i.isBlank

/-- the markup that the lines of a header take over -/
def lineMarkups (h : Header) : List String := h.kicker.toList ++ h.title.toList ++ h.subtitle.toList

/-- the markup that credits take over -/
def creditsMarkups : Option Credits → List String
  | some (.single text) => [text]
  | some (.paragraphs texts) => texts
  | none => []

/-- the markup that a footer takes over -/
def footerMarkups (given : Option Footer) : List String :=
  given.elim [] fun f => creditsMarkups f.credits ++ f.copyright.toList

/-- a part that passes a point without filters, with its divider -/
theorem passed_weaves {b : Built} {p : Extension.Point} {extras : List Extension.Extra} {kind : String}
    {own : List Start} {texts : List String} {nodes : List Node} (hs : Unfiltered t.observer)
    (hb : Weaves s b.nodes own texts t)
    (h : Runs (do
      match ← b.filter p extras with
      | none => return []
      | some built => return built.nodes ++ [← Rendering.divider kind]) t nodes u) : Weaves s nodes own texts u := by
  obtain ⟨r, v, hfilter, hrest⟩ := runs_bind.1 h
  have hquiet := builtFilter_quiet _ _ _ _ _ _ hfilter
  obtain ⟨rfl, -⟩ := builtFilter_runs hs hfilter
  obtain ⟨d, hdivider, rfl⟩ := runs_map.1 hrest
  simpa only [List.append_nil] using (hb.behind hquiet).append (divider_weaves hdivider)

theorem coverPart_weaves [Room] {given : Option Cover} {nodes : List Node} (hs : Unfiltered s.observer)
    (h : Runs (coverPart c given) s nodes t) :
    ∃ own, own.map Start.tag = (coverItems given).flatMap (itemTags c) ∧
      Weaves s nodes own ((coverItems given).flatMap (itemMarkups c)) t := by
  cases given with
  | none =>
    obtain ⟨rfl, rfl⟩ := runs_pure.1 h
    exact ⟨[], rfl, weaves_none rfl⟩
  | some given =>
    obtain ⟨b, u, hcover, hrest⟩ := runs_bind.1 h
    obtain ⟨own, htags, hweaves⟩ := cover_weaves hcover
    rw [← (cover_steady c given).keeping _ _ _ hs hcover] at hs
    refine ⟨own, by simpa [coverItems] using htags, ?_⟩
    simpa [coverItems] using passed_weaves hs hweaves hrest

/-- **A header without filters** is a new element with its parts. -/
theorem header_runs {h : Header} {r : Option Built} (hs : Unfiltered s.observer) (hrun : Runs (header c h) s r t) :
    ∃ e nodes u v, Runs (Rendering.createNamed "header" "header") s e u ∧ Unfiltered u.observer ∧
      Runs (headerParts c h) u nodes v ∧ r = some (.ofElement (e.append nodes)) ∧ t.features = v.features := by
  obtain ⟨e, u, hnew, hrest⟩ := runs_bind.1 hrun
  rw [← (Rendering.createNamed_steady _ _).keeping _ _ _ hs hnew] at hs
  obtain ⟨nodes, v, hparts, hfilter⟩ := runs_bind.1 hrest
  have hv : Unfiltered v.observer := by
    obtain ⟨_, _, _, _, _, -, -, -, hadds, hlines⟩ := headerParts_adds (hs.gentleAt .cover) (hs .mapsApiKey) hparts
    rw [hlines.adds.observer, hadds.observer]
    exact hs
  exact ⟨e, nodes, u, v, hnew, hs, hparts, (builtFilter_runs hv hfilter).1, builtFilter_quiet _ _ _ _ _ _ hfilter⟩

theorem header_weaves [Room] {h : Header} {r : Option Built} (hs : Unfiltered s.observer) (hrun : Runs (header c h) s r t) :
    ∃ own, own.map Start.tag = (coverItems h.cover).flatMap (itemTags c) ∧
      Weaves s (partNodes r) own ((coverItems h.cover).flatMap (itemMarkups c) ++ lineMarkups h) t := by
  obtain ⟨e, nodes, s₀, s₇, hnew, hs₀, hparts, rfl, hquiet⟩ := header_runs hs hrun
  obtain ⟨cover, s₁, hcover, hparts⟩ := runs_bind.1 hparts
  obtain ⟨own, htags, h₁⟩ := coverPart_weaves hs₀ hcover
  obtain ⟨bar, s₂, hbar, hparts⟩ := runs_bind.1 hparts
  obtain ⟨kicker, s₃, hkicker, hparts⟩ := runs_bind.1 hparts
  obtain ⟨title, s₄, htitle, hparts⟩ := runs_bind.1 hparts
  obtain ⟨subtitle, s₅, hsubtitle, hparts⟩ := runs_bind.1 hparts
  obtain ⟨authors, s₆, hauthors, hparts⟩ := runs_bind.1 hparts
  obtain ⟨date, hdate, rfl⟩ := runs_map.1 hparts
  have hlines := (((((h₁.append (barPart_weaves hbar)).append (linePart_weaves (by decide) hkicker)).append
    (linePart_weaves (by decide) htitle)).append (linePart_weaves (by decide) hsubtitle)).append
    (bylinePart_weaves hauthors)).append (datePart_weaves hdate)
  refine ⟨own, htags, ?_⟩
  simpa [lineMarkups, partNodes, Built.nodes, Built.ofElement] using
    ((weaves_plain (by decide) hnew).adopt hlines).behind hquiet

theorem contentPart_weaves [Room] {i : Item} {nodes : List Node} (hs : Unfiltered s.observer)
    (h : Runs (contentPart c i) s nodes t) :
    ∃ own, own.map Start.tag = (shownItems [i]).flatMap (itemTags c) ∧
      Weaves s nodes own ((shownItems [i]).flatMap (itemMarkups c)) t := by
  unfold contentPart at h
  split at h
  · rename_i hblank
    obtain ⟨_, hnote, rfl⟩ := runs_map.1 h
    rw [shownItems, List.filter_singleton, hblank]
    exact ⟨[], rfl, weaves_none (Rendering.note_quiet _ _ _ _ hnote)⟩
  · rename_i hshown
    have hitems : shownItems [i] = [i] := by simp [shownItems, hshown]
    rw [hitems, List.flatMap_singleton, List.flatMap_singleton]
    split at h
    · obtain ⟨_, hnote, rfl⟩ := runs_map.1 h
      exact ⟨[], rfl, weaves_none (Rendering.note_quiet _ _ _ _ hnote)⟩
    · obtain ⟨r, u, hitem, hrest⟩ := runs_bind.1 h
      obtain ⟨own, htags, hweaves⟩ := item_weaves hs hitem
      rw [← (item_steady c i).keeping _ _ _ hs hitem] at hs
      cases r with
      | none =>
        obtain ⟨rfl, rfl⟩ := runs_pure.1 hrest
        exact ⟨own, htags, hweaves⟩
      | some b => exact ⟨own, htags, passed_weaves hs hweaves hrest⟩

theorem contentParts_weaves [Room] {items : List Item} {nodes : List Node} (hs : Unfiltered s.observer)
    (h : Runs (contentParts c items) s nodes t) :
    ∃ own, own.map Start.tag = (shownItems items).flatMap (itemTags c) ∧
      Weaves s nodes own ((shownItems items).flatMap (itemMarkups c)) t := by
  induction items generalizing s nodes with
  | nil =>
    obtain ⟨rfl, rfl⟩ := runs_pure.1 h
    exact ⟨[], rfl, weaves_none rfl⟩
  | cons i items ih =>
    obtain ⟨first, u, hfirst, hrest⟩ := runs_bind.1 h
    obtain ⟨own, htags, hweaves⟩ := contentPart_weaves hs hfirst
    obtain ⟨_, -, hadds⟩ := contentPart_adds (hs.gentleAt .articleItem) (hs .mapsApiKey) hfirst
    rw [← hadds.observer] at hs
    obtain ⟨others, hothers, rfl⟩ := runs_map.1 hrest
    obtain ⟨own', htags', hweaves'⟩ := ih hs hothers
    have hsplit : shownItems (i :: items) = shownItems [i] ++ shownItems items := List.filter_append [i] items
    rw [hsplit, List.flatMap_append, List.flatMap_append]
    exact ⟨own ++ own', by rw [List.map_append, htags, htags'], hweaves.append hweaves'⟩

theorem content_weaves [Room] {items : List Item} {e : Element} (hs : Unfiltered s.observer)
    (h : Runs (content c items) s e t) :
    ∃ own, own.map Start.tag = (shownItems items).flatMap (itemTags c) ∧
      Weaves s [e.toNode] own ((shownItems items).flatMap (itemMarkups c)) t := by
  obtain ⟨e₀, u, hnew, hrest⟩ := runs_bind.1 h
  have hempty := weaves_plain (by decide) hnew
  rw [← (Rendering.createNamed_steady _ _).keeping _ _ _ hs hnew] at hs
  obtain ⟨nodes, hparts, rfl⟩ := runs_map.1 hrest
  obtain ⟨own, htags, hweaves⟩ := contentParts_weaves hs hparts
  exact ⟨own, htags, hempty.adopt hweaves⟩

/-- what is not present brings no custom elements -/
theorem customsOf_absentCredits {credits : Option Credits} (h : credits.filter Credits.isPresent = none) :
    (creditsMarkups credits).flatMap customsOf = [] := by
  match credits with
  | none => rfl
  | some (.single text) =>
    have hempty : text.isEmpty = true := by simpa [Option.filter, Credits.isPresent] using h
    simp [creditsMarkups, customsOf_isEmpty hempty]
  | some (.paragraphs []) => rfl
  | some (.paragraphs (text :: texts)) => cases h

theorem customsOf_absentText {text : Option String} (h : text.filter (fun s => !s.isEmpty) = none) :
    text.toList.flatMap customsOf = [] := by
  cases text with
  | none => rfl
  | some text =>
    have hempty : text.isEmpty = true := by simpa [Option.filter] using h
    simp [customsOf_isEmpty hempty]

theorem weaves_absent {texts : List String} (htexts : texts.flatMap customsOf = []) : Weaves s [] [] texts s :=
  ⟨by simp [htexts], fun f => by simp⟩

theorem creditsPart_weaves {credits : Option Credits} {nodes : List Node} (h : Runs (creditsPart credits) s nodes t) :
    Weaves s nodes [] (creditsMarkups credits) t := by
  unfold creditsPart at h
  split at h
  · rename_i habsent
    obtain ⟨rfl, rfl⟩ := runs_pure.1 h
    exact weaves_absent (customsOf_absentCredits habsent)
  · rename_i given hpresent
    obtain ⟨hcredits, -⟩ := Option.filter_eq_some_iff.1 hpresent
    rw [hcredits]
    obtain ⟨e, _, hnew, hrest⟩ := runs_bind.1 h
    have hempty := weaves_plain (by decide) hnew
    cases given with
    | single text =>
      obtain ⟨full, hfull, rfl⟩ := runs_map.1 hrest
      exact hempty.markup hfull
    | paragraphs texts =>
      obtain ⟨lines, hlines, rfl⟩ := runs_map.1 hrest
      exact hempty.adopt (lines_weave (by decide) hlines)

theorem copyrightPart_weaves {copyright : Option String} {nodes : List Node}
    (h : Runs (copyrightPart copyright) s nodes t) : Weaves s nodes [] copyright.toList t := by
  unfold copyrightPart at h
  split at h
  · rename_i habsent
    obtain ⟨rfl, rfl⟩ := runs_pure.1 h
    exact weaves_absent (customsOf_absentText habsent)
  · rename_i text hpresent
    obtain ⟨hcopyright, -⟩ := Option.filter_eq_some_iff.1 hpresent
    rw [hcopyright]
    obtain ⟨e, _, hnew, hrest⟩ := runs_bind.1 h
    obtain ⟨full, hfull, rfl⟩ := runs_map.1 hrest
    exact (weaves_plain (by decide) hnew).markup hfull

theorem footer_weaves {given : Option Footer} {r : Option Built} (hs : Unfiltered s.observer)
    (h : Runs (footer given) s r t) : Weaves s (partNodes r) [] (footerMarkups given) t := by
  unfold footer at h
  split at h
  · rename_i habsent
    obtain ⟨rfl, rfl⟩ := runs_pure.1 h
    refine weaves_absent ?_
    cases given with
    | none => rfl
    | some f =>
      have hnone : f.credits.any Credits.isPresent = false ∧ f.copyright.any (fun s => !s.isEmpty) = false := by
        simpa [Option.filter, Footer.isPresent] using habsent
      rw [footerMarkups, Option.elim_some, List.flatMap_append, customsOf_absentCredits, customsOf_absentText,
        List.nil_append]
      · exact Option.filter_eq_none_iff.2 fun text htext => by simpa [htext] using hnone.2
      · exact Option.filter_eq_none_iff.2 fun credits hcredits => by simpa [hcredits] using hnone.1
  · rename_i f hpresent
    obtain ⟨rfl, -⟩ := Option.filter_eq_some_iff.1 hpresent
    obtain ⟨e, s₁, hnew, hrest⟩ := runs_bind.1 h
    rw [← (Rendering.createNamed_steady _ _).keeping _ _ _ hs hnew] at hs
    obtain ⟨credits, s₂, hcredits, hrest⟩ := runs_bind.1 hrest
    rw [← creditsPart_keeping _ _ _ _ hs hcredits] at hs
    obtain ⟨copyright, s₃, hcopyright, hfilter⟩ := runs_bind.1 hrest
    rw [← copyrightPart_keeping _ _ _ _ hs hcopyright] at hs
    have hquiet := builtFilter_quiet _ _ _ _ _ _ hfilter
    obtain ⟨rfl, -⟩ := builtFilter_runs hs hfilter
    have hparts := (creditsPart_weaves hcredits).append (copyrightPart_weaves hcopyright)
    exact ((weaves_plain (by decide) hnew).adopt hparts).behind hquiet

/-! ## Steps around the content -/

section Around

theorem metadata_quiet (c : Setting) : Quiet (metadata c) := by
  refine keeps_bind ?_ fun v => keeps_bind (Rendering.filter_quiet _ _ _) fun _ => ?_
  · refine keeps_bind (keeps_liftM _) fun _ => keeps_bind (keeps_liftM _) fun _ => ?_
    dsimp only
    split
    · exact keeps_bind (keeps_pure _) fun _ => keeps_pure _
    · exact keeps_bind (Rendering.resolve_quiet _ _ _) fun _ => keeps_bind (keeps_pure _) fun _ => keeps_pure _
  · split
    · exact keeps_pure _
    · exact keeps_throw _

theorem headParts_quiet (c : Setting) : Quiet (headParts c) :=
  keeps_bind (Rendering.create_quiet _ _ _) fun _ => keeps_bind (Rendering.create_quiet _ _ _) fun _ =>
    keeps_bind (metadata_quiet c) fun _ => keeps_bind (keeps_liftM _) fun _ => keeps_bind (keeps_liftM _) fun _ =>
      keeps_bind (keeps_liftM _) fun _ => keeps_pure _

theorem styleOf_quiet [Room] (c : Setting) (f : Folders) : Quiet (styleOf c f) := by
  have hwarn (message path : String) (cause : Fault) :
      Quiet (do warnFile message path cause; return Json.object []) :=
    keeps_bind (Rendering.warnText_quiet _ _ _) fun _ => keeps_pure _
  unfold styleOf
  split
  · exact keeps_pure _
  · dsimp only
    split
    · refine keeps_bind (keeps_liftM _) fun text => ?_
      split
      · exact keeps_pure _
      · exact hwarn _ _ _
      · exact keeps_bind (keeps_throw _) fun _ => keeps_pure _
    · exact hwarn _ _ _
    · exact hwarn _ _ _
    · exact keeps_bind (keeps_throw _) fun _ => keeps_pure _

theorem compileStyle_quiet [Room] (c : Setting) (f : Folders) : Quiet (compileStyle c f) := by
  refine keeps_bind (styleOf_quiet c f) fun given => keeps_bind keeps_get fun s => ?_
  dsimp only
  split
  · exact keeps_throw _
  · exact keeps_bind (keeps_modify fun _ => rfl) fun _ => keeps_pure _

theorem sheet_quiet (c : Setting) (path : String) : Quiet (sheet c path) := by
  unfold sheet
  split
  · exact keeps_liftM _
  · exact keeps_bind (Rendering.note_quiet _) fun _ => keeps_pure _
  · exact keeps_throw _

theorem customSheet_quiet (c : Setting) (f : Folders) : Quiet (customSheet c f) := by
  refine keeps_bind (sheet_quiet c _) fun _ => keeps_bind keeps_get fun _ => ?_
  refine keeps_bind (sheet_quiet c _) fun _ => keeps_bind keeps_get fun _ => ?_
  refine keeps_bind (Rendering.filter_quiet _ _ _) fun v => ?_
  split
  · exact keeps_bind (keeps_liftM _) fun _ => keeps_pure _
  · exact keeps_pure _
  · exact keeps_throw _

variable {nodes marked : List Node} {f : Feature}

/-- **The logo** uses no feature, and its element needs none. -/
theorem placeLogo_runs {logo : Option Css.Logo} (h : Runs (placeLogo logo nodes) s marked t) :
    t.features = s.features ∧ (tagsIn marked).count f.tag = (tagsIn nodes).count f.tag := by
  unfold placeLogo at h
  split at h
  · obtain ⟨rfl, rfl⟩ := runs_pure.1 h
    exact ⟨rfl, rfl⟩
  · obtain ⟨holder, _, hholder, hrest⟩ := runs_bind.1 h
    obtain ⟨picture, _, hpicture, hend⟩ := runs_bind.1 hrest
    obtain ⟨htag, -, hchildren⟩ := create_new hholder
    obtain ⟨htag', -, hchildren'⟩ := create_new hpicture
    obtain ⟨-, rfl⟩ := create_eq hholder
    obtain ⟨-, rfl⟩ := create_eq hpicture
    obtain ⟨rfl, rfl⟩ := runs_pure.1 hend
    refine ⟨rfl, Markup.Node.tagsIn_mapMarkedAll (fun e => ?_) nodes⟩
    have hbox : (tagsIn [(holder.append [picture.toNode]).toNode]).count f.tag = 0 := by
      rw [Markup.Node.tagsIn_toNode, Element.append, hchildren, List.nil_append, Markup.Node.tagsIn_toNode, hchildren',
        htag, htag']
      cases f <;> decide
    rw [Markup.Node.tagsIn_toNode, Markup.Node.tagsIn_toNode, Element.append, Markup.Node.tagsIn_append,
      ← List.cons_append, List.count_append, hbox, Nat.add_zero]

/-- **The date** is a text only. -/
theorem placeDate_runs {published : Option Moment} {pattern : String}
    (h : Runs (placeDate published pattern nodes) s marked t) :
    t.features = s.features ∧ (tagsIn marked).count f.tag = (tagsIn nodes).count f.tag := by
  unfold placeDate at h
  split at h
  · obtain ⟨rfl, rfl⟩ := runs_pure.1 h
    exact ⟨rfl, rfl⟩
  · obtain ⟨_, -, hend⟩ := runs_liftM_bind.1 h
    obtain ⟨rfl, rfl⟩ := runs_pure.1 hend
    refine ⟨rfl, Markup.Node.tagsIn_mapMarkedAll (fun e => ?_) nodes⟩
    rw [Markup.Node.tagsIn_toNode, Markup.Node.tagsIn_toNode, Markup.Node.tagsIn_append, Markup.Node.tagsIn_dropText]
    split
    · simp [tagsIn, Markup.Node.startsIn]
    · simp [tagsIn, Markup.Node.startsIn, Markup.Node.starts]

end Around

mutual
/-- a tree has the same elements when its dividers are completed -/
theorem tagsIn_settle (s : State) : ∀ n : Node, tagsIn [s.settle n] = tagsIn [n]
  | .text _ => by simp [State.settle]
  | .comment _ => by simp [State.settle]
  | .element tag mark attributes children => by
    have hbelow := tagsIn_settleAll s children
    have hwhole : tagsIn [(⟨tag, mark, attributes, s.settleAll children⟩ : Element).toNode] =
        tagsIn [(⟨tag, mark, attributes, children⟩ : Element).toNode] := by
      rw [Markup.Node.tagsIn_toNode, Markup.Node.tagsIn_toNode, hbelow]
    simp only [State.settle]
    split
    · rename_i number
      rw [Markup.Node.tagsIn_toNode, State.completeDivider]
      rw [Markup.Node.tagsIn_toNode] at hwhole
      split
      · exact hwhole
      · exact hwhole
    · exact hwhole

theorem tagsIn_settleAll (s : State) : ∀ ns : List Node, tagsIn (s.settleAll ns) = tagsIn ns
  | [] => by simp [State.settleAll]
  | n :: rest => by
    rw [State.settleAll, Markup.Node.tagsIn_cons, Markup.Node.tagsIn_cons n, tagsIn_settle s n,
      tagsIn_settleAll s rest]
end

/-! ## Tracking elements -/

/-- the tracking elements that are inserted for markup: all of them or none -/
def insertedTracking (markups : List String) : List Node := (trackingElements markups).toOption.getD []

theorem insertedTracking_tracks {markups : List String} (h : insertedTracking markups ≠ []) :
    List.Forall₂ Tracks markups (insertedTracking markups) := by
  unfold insertedTracking at h ⊢
  cases helements : trackingElements markups with
  | error fault =>
    rw [helements] at h
    exact absurd rfl h
  | ok elements => exact (mapM_ok_iff.1 helements).imp fun _ _ => trackingElement_ok_iff.1

theorem insertedTracking_eq {markups : List String} {elements : List Node} (h : List.Forall₂ Tracks markups elements) :
    insertedTracking markups = elements := by
  have helements : trackingElements markups = .ok elements :=
    mapM_ok_iff.2 (h.imp fun _ _ => trackingElement_ok_iff.2)
  rw [insertedTracking, helements]
  rfl

/-- what is inserted is read from a piece of the markup -/
theorem tracks_of_mem {markups : List String} {n : Node} (hn : n ∈ insertedTracking markups) :
    ∃ markup, Tracks markup n := by
  obtain ⟨i, hi, rfl⟩ := List.mem_iff_getElem.1 hn
  have htracks := insertedTracking_tracks (List.ne_nil_of_mem hn)
  exact ⟨_, (List.forall₂_iff_get.1 htracks).2 i (htracks.length_eq ▸ hi) hi⟩

/-- of the tags of features, only that of tracking elements is inserted -/
theorem insertedTracking_feature {markups : List String} {n : Node} {f : Feature}
    (hn : n ∈ insertedTracking markups) (htag : n.tag? = some f.tag) : f = .analytics := by
  obtain ⟨_, ⟨tag, htracking, htag'⟩, -⟩ := tracks_of_mem hn
  obtain rfl := Option.some.inj (htag.symm.trans htag')
  revert htracking
  cases f <;> decide

theorem Tracks.isUnmarked {markup : String} {n : Node} (h : Tracks markup n) : n.isUnmarked = true := by
  obtain ⟨body, front, tail, ⟨root, hroot, hbody⟩, hchildren, -, -⟩ := h.isAlone
  have hunmarked := Markup.bodies_unmarked (Markup.document_unmarked hroot) (hbody ▸ List.mem_singleton_self body)
  rw [Element.isUnmarked_eq, Bool.and_eq_true] at hunmarked
  exact (Node.areUnmarked_iff _).1 hunmarked.2 n (by simp [hchildren])

/-- nothing that is inserted bears a mark -/
theorem insertedTracking_unmarked (markups : List String) : Node.areUnmarked (insertedTracking markups) = true := by
  refine (Node.areUnmarked_iff _).2 fun n hn => ?_
  obtain ⟨_, htracks⟩ := tracks_of_mem hn
  exact htracks.isUnmarked

/-- **What is done for tracking**: elements stand in front of the body, and the feature is used if there are any. -/
theorem addAnalytics_runs {markups : List String} {body e : Element} (h : Runs (addAnalytics markups body) s e t) :
    e = { body with children := insertedTracking markups ++ body.children } ∧
      ∀ f : Feature, f ∈ t.features ↔ f ∈ s.features ∨ f = .analytics ∧ insertedTracking markups ≠ [] := by
  cases helements : trackingElements markups with
  | ok elements =>
    obtain ⟨_, hrun⟩ := addAnalytics_inserted body s helements
    have hinserted : insertedTracking markups = elements := by rw [insertedTracking, helements]; rfl
    have hnil : elements = [] ↔ markups = [] := by
      rw [← List.length_eq_zero_iff, ← (mapM_ok_iff.1 helements).length_eq, List.length_eq_zero_iff]
    obtain ⟨he, ht⟩ := Prod.mk.inj (h.symm.trans hrun)
    rw [hinserted]
    refine ⟨Except.ok.inj he, fun f => ?_⟩
    rw [ht, Ne, hnil]
    dsimp only
    split
    · rename_i hnone
      rw [hnone]
      simp
    · rename_i hsome
      simp [mem_used, hsome]
  | error fault =>
    have hinserted : insertedTracking markups = [] := by rw [insertedTracking, helements]; rfl
    rw [hinserted]
    obtain ⟨_, markup, _, -, -, hmarkup⟩ := mapM_error helements
    rcases trackingElement_error hmarkup with ⟨-, hfault, hsubject⟩ | ⟨-, rfl⟩
    · obtain ⟨_, hrun⟩ := addAnalytics_discarded body s helements hfault hsubject
      obtain ⟨he, ht⟩ := Prod.mk.inj (h.symm.trans hrun)
      rw [ht]
      exact ⟨Except.ok.inj he, fun f => by simp⟩
    · cases h.symm.trans (addAnalytics_stopped body s helements rfl)

/-! ## Whole bodies -/

/-- the tags of the custom elements that the builders make for an article, in its header and in its content -/
def articleTags [Room] (c : Setting) : List String :=
  (coverItems c.article.header.cover).flatMap (itemTags c) ++ (shownItems c.article.items).flatMap (itemTags c)

/-- the nodes that the markup of an article brings into the body of its page -/
def articleMarkup [Room] (c : Setting) : List Node :=
  ((coverItems c.article.header.cover).flatMap (itemMarkups c) ++ lineMarkups c.article.header ++
    (shownItems c.article.items).flatMap (itemMarkups c) ++ footerMarkups c.article.footer).flatMap Markup.taken

theorem customsIn_flatMap (texts : List String) : customsIn (texts.flatMap Markup.taken) = texts.flatMap customsOf := by
  induction texts with
  | nil => simp
  | cons text texts ih => rw [List.flatMap_cons, List.flatMap_cons, Markup.Node.customsIn_append, ih, customsOf]

namespace Stages

variable [Room] {f : Folders}

/-- the header, the content and the footer -/
def parts (d : Stages c f s) : List Node := partNodes d.header ++ [d.content.toNode] ++ partNodes d.footer

/-- **The custom elements of the parts** are those that the builders make, for which alone features are used, and
those of the markup. -/
theorem parts_weave (d : Stages c f s) (g : Feature) :
    (tagsIn d.parts).count g.tag = (articleTags c).count g.tag + (tagsIn (articleMarkup c)).count g.tag ∧
      (g ∈ d.footed.features ↔ g ∈ s.features ∨ g.tag ∈ articleTags c) := by
  obtain ⟨own, htags, hheader⟩ := header_weaves d.headedUnfiltered d.headerRun
  obtain ⟨own', htags', hcontent⟩ := content_weaves d.toppedUnfiltered d.contentRun
  have hquiet : d.headed.features = s.features := by
    rw [headParts_quiet _ _ _ _ d.headRun, Rendering.create_quiet _ _ _ _ _ _ d.rootRun]
  have hall := ((hheader.append hcontent).append (footer_weaves d.filledUnfiltered d.footerRun)).before hquiet
  have hown : (own ++ own' ++ []).map Start.tag = articleTags c := by
    rw [List.append_nil, List.map_append, htags, htags', articleTags]
  refine ⟨?_, by rw [hall.features, hown]⟩
  have hcustom := g.isCustomTag_tag
  rw [← Markup.Node.count_customsIn hcustom, ← Markup.Node.count_customsIn hcustom, articleMarkup, customsIn_flatMap,
    ← hown, ← List.count_append, ← List.map_append]
  exact (hall.customs.map Start.tag).count_eq g.tag

/-- the elements of a feature's tag behind the tracking elements -/
theorem rest_count (d : Stages c f s) (g : Feature) :
    (tagsIn d.rest).count g.tag = (articleTags c).count g.tag + (tagsIn (articleMarkup c)).count g.tag := by
  rw [(placeDate_runs d.dateRun).2, (placeLogo_runs d.logoRun).2]
  exact (d.parts_weave g).1

/-- **The features in the end**: those of the custom elements that the builders make, and that of the tracking
elements. -/
theorem mem_features (d : Stages c f s) (g : Feature) : g ∈ d.tracked.features ↔
    g ∈ s.features ∨ g.tag ∈ articleTags c ∨ g = .analytics ∧ insertedTracking c.properties.analytics ≠ [] := by
  rw [(addAnalytics_runs d.bodyRun).2, customSheet_quiet _ _ _ _ _ d.sheetRun, (placeDate_runs (f := g) d.dateRun).1,
    (placeLogo_runs (f := g) d.logoRun).1, compileStyle_quiet _ _ _ _ _ d.styleRun, (d.parts_weave g).2, or_assoc]

end Stages

end AmpArticle.Page
