import AmpArticle.Proofs.Page.Agreement
import AmpArticle.Proofs.Page.Twins

/-!
The class prefix is a pure parameter. Two conversions of one article with different prefixes build pages that differ in
it alone: in the classes that the builders set, in the selectors of the rules, and so in the text of the style sheet.
Nothing is said about prefixes for which only one of the two comes to a page, such as one that no document may hold.

Results:
- `compileStyle_inStep`, `customSheet_inStep`: the style and the style sheet in lockstep;
- `document_inStep`: whole documents;
- `convert_prefix`: the trees, the warnings, the features and the rules of two pages.
-/

namespace AmpArticle.Page

open Markup (Element Node)
open Extension (Observer)

variable {c : Setting} {f : Folders} {taken : Node → Prop} {p q : String}

/-! ## Head -/

theorem rootElement_inStep (taken : Node → Prop) (c : Setting) :
    InStep p q (rootElement c) (rootElement c) (Made taken p q) := by
  refine Rendering.createPlain_inStep taken "html" fun a ha => ?_
  simp only [List.mem_append, List.mem_singleton] at ha
  rcases ha with (rfl | ha) | ha
  · decide
  · split at ha
    · rw [List.mem_singleton.1 ha]
      decide
    · cases ha
  · split at ha
    · rw [List.mem_singleton.1 ha]
      exact (by decide : "lang" ≠ "class")
    · cases ha

theorem description_inStep (c : Setting) : InStep p q (description c) (description c) Eq := by
  refine inStep_bind (inStep_same _) ?_
  rintro headline _ rfl
  refine inStep_bind (inStep_same _) ?_
  rintro summary _ rfl
  dsimp only
  cases leadPicture? c.article with
  | none => exact inStep_bind (inStep_pure rfl) fun _ _ h => inStep_pure (by rw [h])
  | some pic =>
    refine inStep_bind (Rendering.resolve_inStep _ _ _) ?_
    rintro size _ rfl
    exact inStep_bind (inStep_pure rfl) fun _ _ h => inStep_pure (by rw [h])

theorem metadata_inStep (c : Setting) : InStep p q (metadata c) (metadata c) Eq := by
  refine inStep_bind (description_inStep c) ?_
  rintro v _ rfl
  refine inStep_bind (Rendering.filter_inStep _ _ _ _) ?_
  rintro _ _ ⟨rfl, rfl⟩
  exact inStep_pure rfl

/-- what depends on the article in a head is the same for both -/
theorem headParts_inStep (c : Setting) : InStep p q (headParts c) (headParts c)
    fun h h' => h = h' ∧ ∃ v title, h = headOf c v title := by
  have hsame : InStep p q (headParts c) (headParts c) Eq := by
    refine inStep_bind (Rendering.createPlain_same _ _) ?_
    rintro charset _ ⟨-, rfl⟩
    refine inStep_bind (Rendering.createPlain_same _ _) ?_
    rintro canonical _ ⟨-, rfl⟩
    refine inStep_bind (metadata_inStep c) ?_
    rintro description _ rfl
    refine inStep_bind (inStep_same _) ?_
    rintro script _ rfl
    refine inStep_bind (inStep_same _) ?_
    rintro title _ rfl
    refine inStep_bind (inStep_same _) ?_
    rintro element _ rfl
    exact inStep_pure rfl
  intro s t h h' s' t' htwin hx hy
  obtain ⟨htwin', hhead⟩ := hsame _ _ _ _ _ _ htwin hx hy
  obtain ⟨v, _, _, title, -, -, hform⟩ := headParts_runs htwin.unfiltered hx
  exact ⟨htwin', hhead, v, title, hform⟩

theorem plainElement_made (tag : String) {attributes : List (String × String)} (h : ∀ a ∈ attributes, a.1 ≠ "class") :
    Made taken p q (plainElement tag attributes) (plainElement tag attributes) := (Made.bare tag).putAll h

theorem Made.holding {e e' : Element} (text : String) (h : Made taken p q e e') :
    Made taken p q (holding e text) (holding e' text) :=
  ⟨h.tag, h.mark, h.isNoDivider, h.attributes, .cons (.text text) .nil⟩

theorem titleElement_made (text : String) : Made taken p q (titleElement text) (titleElement text) := by
  refine ⟨rfl, rfl, rfl, ⟨[], [], by decide, rfl, rfl⟩, ?_⟩
  rw [titleElement]
  split
  · exact .nil
  · exact .cons (.text text) .nil

theorem sheetElement_alike (css css' : String) :
    Alike taken p q (sheetElement (some css)).toNode (sheetElement (some css')).toNode := by
  have hsheet (css : String) : (sheetElement (some css)).toNode =
      .element "style" none [⟨"amp-custom", some ""⟩] (if css.isEmpty then [] else [.text css]) := rfl
  have htexts (css : String) : ∀ n ∈ (if css.isEmpty then [] else [Node.text css]), n.isText = true := by
    split
    · simp
    · simp [Node.isText]
  rw [hsheet, hsheet]
  exact .sheet (htexts css) (htexts css')

theorem featureScript_made (f : Feature) : Made taken p q (featureScript f) (featureScript f) :=
  plainElement_made "script" (by simp)

/-- the scripts of features are put into both heads alike -/
theorem addFeatureScripts_inStep (taken : Node → Prop) {v : Json} {title css css' : String} (used : List Feature) :
    InStep p q (liftM (addFeatureScripts used ((headOf c v title).assemble (some css))))
      (liftM (addFeatureScripts used ((headOf c v title).assemble (some css')))) (Made taken p q) := by
  refine inStep_liftM fun top top' htop htop' => ?_
  rw [addFeatureScripts_assemble, Except.ok.injEq] at htop htop'
  rw [← htop, ← htop']
  have hscripts : AllAlike taken p q (scriptNodes used) (scriptNodes used) := by
    refine List.forall₂_same.2 fun n hn => ?_
    obtain ⟨f, -, rfl⟩ := List.mem_map.1 hn
    exact (featureScript_made f).alike
  have hearly : AllAlike taken p q (headOf c v title).early (headOf c v title).early :=
    .cons (plainElement_made "meta" (by simp)).alike (.cons (plainElement_made "meta" (by simp)).alike .nil)
  have hruntime : AllAlike taken p q [runtimeScript.toNode] [runtimeScript.toNode] :=
    .cons (plainElement_made "script" (by simp)).alike .nil
  have hstyle (text : String) : Made taken p q (holding (plainElement "style" [("amp-boilerplate", "")]) text)
      (holding (plainElement "style" [("amp-boilerplate", "")]) text) :=
    (plainElement_made "style" (by simp)).holding text
  have hlate : AllAlike taken p q ((headOf c v title).late (some css)) ((headOf c v title).late (some css')) :=
    .cons (hstyle _).alike <| .cons ((Made.bare "noscript").adopt (hstyle _)).alike <|
      .cons (plainElement_made "link" (by simp)).alike <| .cons (sheetElement_alike css css') <|
      .cons ((plainElement_made "script" (by simp)).holding _).alike <| .cons (titleElement_made title).alike .nil
  exact ⟨rfl, rfl, rfl, ⟨[], [], by decide, rfl, rfl⟩, ((hearly.append hruntime).append hscripts).append hlate⟩

/-! ## Style -/

theorem styleOf_inStep [Room] (c : Setting) (f : Folders) : InStep p q (styleOf c f) (styleOf c f) Eq := by
  have hwarn (message path : String) (cause : Fault) :
      InStep p q (do warnFile message path cause; return Json.object [])
        (do warnFile message path cause; return Json.object []) Eq :=
    inStep_bind (Rendering.warnText_inStep _ _ _) fun _ _ _ => inStep_pure rfl
  have hthrow (fault : Fault) : InStep p q (do throw fault; return Json.object [])
      (do throw fault; return Json.object []) Eq :=
    inStep_bind (R := Eq) inStep_throw fun _ _ _ => inStep_pure rfl
  unfold styleOf
  cases c.properties.overrideStyles with
  | some entries => exact inStep_pure rfl
  | none =>
    dsimp only
    cases c.resolver.disk.read (stylePath c f) with
    | ok bytes =>
      refine inStep_bind (inStep_same _) ?_
      rintro text _ rfl
      rcases Json.load .styleFile text with (e | limit) | v
      · exact hwarn _ _ _
      · exact hthrow _
      · exact inStep_pure rfl
    | error fault =>
      cases fault with
      | file cause path =>
        cases cause with
        | notFound => exact hwarn _ _ _
        | _ => exact hwarn _ _ _
      | _ => exact hthrow _

/-- **The style** is read behind both prefixes alike. -/
theorem compileStyle_inStep [Room] (c : Setting) (f : Folders) : InStep p q (compileStyle c f) (compileStyle c f) Eq := by
  refine inStep_bind (styleOf_inStep c f) ?_
  rintro given _ rfl
  refine inStep_bind inStep_get fun s t htwin => ?_
  dsimp only
  rw [htwin.rules.left, htwin.rules.right]
  rcases Css.Style.compile_templated (some c.resolver.resolveAny) given with hfails | ⟨style, os, ws, log, hos, hgives⟩
  · obtain ⟨fault, hfault⟩ := hfails p
    rw [hfault]
    exact inStep_throw
  · rw [hgives p, hgives q, Css.Draft.empty_append, Css.Draft.empty_append]
    refine inStep_bind (inStep_modify fun s' t' h => ?_) fun _ _ _ => inStep_pure rfl
    exact ⟨h.left, h.right, h.rules.declareIn hos rfl rfl, by rw [h.warnings], h.features, h.observer, h.unfiltered,
      h.dividers, h.counts, by rw [h.log]⟩

theorem sheet_inStep (c : Setting) (path : String) : InStep p q (sheet c path) (sheet c path) Eq := by
  unfold sheet
  cases c.resolver.disk.read path with
  | ok bytes => exact inStep_same _
  | error fault =>
    cases fault with
    | file cause path => exact inStep_bind (Rendering.note_inStep _) fun _ _ _ => inStep_pure rfl
    | _ => exact inStep_throw

/-- there is a style sheet in both pages; its text may be another one -/
theorem customSheet_inStep (c : Setting) (f : Folders) : InStep p q (customSheet c f) (customSheet c f)
    fun css css' => ∃ text text', css = some text ∧ css' = some text' := by
  refine inStep_bind (sheet_inStep c _) ?_
  rintro general _ rfl
  refine inStep_bind inStep_get fun s t _ => inStep_bind (sheet_inStep c _) ?_
  rintro own _ rfl
  refine inStep_bind inStep_get fun s' t' _ => inStep_bind (Rendering.filter_inStep _ _ _ _) ?_
  rintro _ _ ⟨rfl, rfl⟩
  refine inStep_bind (R := fun _ _ => True) (inStep_liftM fun _ _ _ _ => trivial) fun _ _ _ => ?_
  exact inStep_pure ⟨_, _, rfl, rfl⟩

/-! ## What is put in last -/

section Last

variable {nodes nodes' : List Node} (htaken : ∀ n, taken n → n.isUnmarked = true)

include htaken

theorem placeLogo_inStep (logo : Option Css.Logo) (h : AllAlike taken p q nodes nodes') :
    InStep p q (placeLogo logo nodes) (placeLogo logo nodes') (AllAlike taken p q) := by
  cases logo with
  | none => exact inStep_pure h
  | some logo =>
    refine inStep_bind (Rendering.createNamed_inStep taken "div" rfl) fun holder holder' hholder => ?_
    refine inStep_bind (Rendering.createPlain_inStep taken "amp-img" (by simp)) fun picture picture' hpicture => ?_
    refine inStep_pure (mapMarkedAll_alike htaken rfl (fun e e' he => ?_) _ _ h)
    exact he.adopt (hholder.adopt hpicture)

theorem placeDate_inStep (published : Option Moment) (pattern : String) (h : AllAlike taken p q nodes nodes') :
    InStep p q (placeDate published pattern nodes) (placeDate published pattern nodes') (AllAlike taken p q) := by
  cases published with
  | none => exact inStep_pure h
  | some moment =>
    refine inStep_bind (inStep_same _) fun _ _ _ => ?_
    refine inStep_pure (mapMarkedAll_alike htaken rfl (fun e e' he => ?_) _ _ h)
    cases (dateText (some moment) pattern).isEmpty with
    | true => exact he.leading []
    | false => exact he.leading [dateText (some moment) pattern]

end Last

theorem analytics_inStep (markups : List String) : InStep p q (analytics markups) (analytics markups)
    fun nodes nodes' => nodes = nodes' ∧ nodes ⊆ insertedTracking markups := by
  unfold analytics
  split
  · exact inStep_pure ⟨rfl, List.nil_subset _⟩
  · cases helements : trackingElements markups with
    | ok nodes =>
      refine inStep_bind (Rendering.note_inStep _) fun _ _ _ => ?_
      refine inStep_bind (Rendering.useFeature_inStep _) fun _ _ _ => inStep_pure ⟨rfl, ?_⟩
      rw [insertedTracking, helements]
      exact List.Subset.refl nodes
    | error fault =>
      dsimp only
      split
      · exact inStep_bind (Rendering.warn_inStep _) fun _ _ _ => inStep_pure ⟨rfl, List.nil_subset _⟩
      · exact inStep_throw

theorem addAnalytics_inStep {markups : List String} {e e' : Element} (h : ∀ n ∈ insertedTracking markups, taken n)
    (he : Made taken p q e e') :
    InStep p q (addAnalytics markups e) (addAnalytics markups e') (Made taken p q) := by
  refine inStep_bind (analytics_inStep markups) ?_
  rintro nodes _ ⟨rfl, hnodes⟩
  exact inStep_pure (he.prepend (allAlike_taken fun n hn => h n (hnodes hn)))

/-! ## Documents -/

/-- what the markup of an article and of the options brings into a page -/
def IsBrought [Room] (c : Setting) (n : Node) : Prop := n ∈ articleMarkup c ∨ n ∈ insertedTracking c.properties.analytics

theorem isBrought_unmarked [Room] {n : Node} (h : IsBrought c n) : n.isUnmarked = true := by
  rcases h with h | h
  · obtain ⟨text, -, hn⟩ := List.mem_flatMap.1 h
    exact (Node.areUnmarked_iff _).1 (Markup.taken_unmarked text) n hn
  · exact (Node.areUnmarked_iff _).1 (insertedTracking_unmarked _) n h

theorem isBrought_brings [Room] (c : Setting) : Brings (IsBrought c)
    ((coverItems c.article.header.cover).flatMap (itemMarkups c) ++ lineMarkups c.article.header ++
      (shownItems c.article.items).flatMap (itemMarkups c) ++ footerMarkups c.article.footer) :=
  fun text htext _ hn => .inl (List.mem_flatMap.2 ⟨text, htext, hn⟩)

/-- **Whole documents in lockstep.** -/
theorem document_inStep [Room] (c : Setting) (f : Folders) : InStep p q (document c f) (document c f)
    fun r r' => ∃ n n', r.1 = .node n true ∧ r'.1 = .node n' true ∧ Alike (IsBrought c) p q n n' := by
  have hbrings := isBrought_brings c
  have htaken (n : Node) (hn : IsBrought c n) : n.isUnmarked = true := isBrought_unmarked hn
  have hopening : InStep p q (opening c) (opening c) fun o o' =>
      Made (IsBrought c) p q o.root o'.root ∧ (o.head = o'.head ∧ ∃ v title, o.head = headOf c v title) ∧
        PartAlike (IsBrought c) p q o.header o'.header ∧ Made (IsBrought c) p q o.content o'.content := by
    refine inStep_bind (rootElement_inStep (IsBrought c) c) fun root root' hroot => ?_
    refine inStep_bind (headParts_inStep c) fun head head' hhead => ?_
    refine inStep_bind (header_inStep hbrings.append_left.append_left) fun top top' htop => ?_
    refine inStep_bind (content_inStep hbrings.append_left.append_right) fun middle middle' hmiddle => ?_
    exact inStep_pure ⟨hroot, hhead, htop, hmiddle⟩
  refine inStep_bind hopening ?_
  rintro page page' ⟨hroot, ⟨hhead, v, title, hform⟩, hheader, hcontent⟩
  refine inStep_bind (footer_inStep hbrings.append_right) fun bottom bottom' hbottom => ?_
  refine inStep_bind (compileStyle_inStep c f) ?_
  rintro style _ rfl
  have hbody : AllAlike (IsBrought c) p q (page.bodyNodes bottom) (page'.bodyNodes bottom') :=
    (AllAlike.append hheader.nodes (.cons hcontent.alike .nil)).append hbottom.nodes
  refine inStep_bind (placeLogo_inStep htaken _ hbody) fun marked marked' hmarked => ?_
  refine inStep_bind (placeDate_inStep htaken _ _ hmarked) fun rest rest' hrest => ?_
  refine inStep_bind (customSheet_inStep c f) ?_
  rintro _ _ ⟨css, css', rfl, rfl⟩
  refine inStep_bind (addAnalytics_inStep (fun _ hn => .inr hn) ((Made.bare "body").append hrest)) ?_
  intro body body' hbody
  refine inStep_bind inStep_get fun s t htwin => ?_
  rw [← hhead, hform, htwin.features]
  refine inStep_bind (addFeatureScripts_inStep (IsBrought c) _) fun top top' htop => ?_
  refine inStep_bind (builtFilter_inStep _ _ htop.built) fun top top' htop => ?_
  have hwhole := (hroot.append (htop.nodes.append (.cons hbody.alike .nil))).alike
  refine inStep_bind (Rendering.filter_inStep _ _ _ _) ?_
  rintro _ _ ⟨rfl, rfl⟩
  exact inStep_pure ⟨_, _, rfl, rfl, hwhole⟩

/-! ## Pages -/

/-- the setting with another class prefix -/
def Setting.behind (c : Setting) (p : String) : Setting :=
  { c with properties := { c.properties with classPrefix := p } }

section Behind

theorem item_behind [Room] (c : Setting) (p : String) (i : Item) : item (c.behind p) i = item c i := by cases i <;> rfl

theorem contentParts_behind [Room] (c : Setting) (p : String) (items : List Item) :
    contentParts (c.behind p) items = contentParts c items := by
  induction items with
  | nil => rfl
  | cons i rest ih => simp only [contentParts, contentPart, item_behind, ih]

theorem cover_behind (c : Setting) (p : String) (given : Cover) : cover (c.behind p) given = cover c given := by
  cases given <;> rfl

/-- only the beginning of a conversion looks at the class prefix of its options -/
theorem document_behind [Room] (c : Setting) (p : String) (f : Folders) : document (c.behind p) f = document c f := by
  have hheader : header (c.behind p) = header c := by
    funext given
    simp only [header, headerParts, coverPart, cover_behind]
  have hcontent : content (c.behind p) = content c := by
    funext items
    simp only [content, contentParts_behind]
  have hopening : opening (c.behind p) = opening c := by
    rw [opening, opening, hheader, hcontent]
    rfl
  have hstyle : compileStyle (c.behind p) f = compileStyle c f := rfl
  have hsheet : customSheet (c.behind p) f = customSheet c f := by
    have hread : sheet (c.behind p) = sheet c := rfl
    have harticle : (c.behind p).article = c.article := rfl
    rw [customSheet, customSheet, hread, harticle]
  rw [document, document, hopening, hstyle, hsheet]
  rfl

end Behind

/-- **The class prefix is a pure parameter.** When the conversions of an article behind two prefixes, without filters,
both come to a page, the trees of the pages are alike: they agree in everything but the class attributes that the
builders set, each of which joins one list of names behind the one prefix and behind the other, and the text of the
style sheet. The warnings and the features are the same. The rules have the same declarations in the same order, and
their selectors come from one list of templates. -/
theorem convert_prefix [Room] (c : Setting) (f : Folders) {o : Observer} (ho : Unfiltered o) {p q : String} {r r' : Result}
    {s s' : State} (h : convert (c.behind p) f o = (.ok r, s)) (h' : convert (c.behind q) f o = (.ok r', s')) :
    (∃ (d : Stages (c.behind p) f (begun (c.behind p) o)) (d' : Stages (c.behind q) f (begun (c.behind q) o)),
      r.html = serialize d.finished ∧ r'.html = serialize d'.finished ∧
      Alike (IsBrought c) p q d.finished.toNode d'.finished.toNode) ∧
    r'.warnings = r.warnings ∧ s'.features = s.features ∧
    ∃ blocks, Css.OnTemplates blocks ∧ s.rules.blocks = blocks.map (Css.fillBlock p) ∧
      s'.rules.blocks = blocks.map (Css.fillBlock q) := by
  obtain ⟨d⟩ := convert_finished ho h
  obtain ⟨d'⟩ := convert_finished ho h'
  have hrun := d.documentRun
  have hrun' := d'.documentRun
  rw [document_behind] at hrun hrun'
  have hbegun : Twin p q (begun (c.behind p) o) (begun (c.behind q) o) := by
    have hstart := twin_start p q ho
    exact ⟨rfl, rfl, hstart.rules, rfl, rfl, rfl, ho, hstart.dividers, rfl, rfl⟩
  obtain ⟨hended, n, n', hn, hn', halike⟩ := document_inStep c f _ _ _ _ _ _ hbegun hrun hrun'
  cases hn
  cases hn'
  have hsettled := settle_alike (fun _ => isBrought_unmarked) hended.dividers _ _ halike
  rw [d.tree, d'.tree] at hsettled
  refine ⟨⟨d.stages, d'.stages, d.html, d'.html, hsettled⟩, ?_, ?_, ?_⟩
  · rw [d.warnings, d'.warnings, hended.warnings]
  · rw [← congrArg State.features d.logged, ← congrArg State.features d'.logged]
    exact hended.features
  · rw [← congrArg State.rules d.logged, ← congrArg State.rules d'.logged]
    exact hended.rules.blocks

/-- an article with a title and an image as its cover -/
def coveredArticle : Article :=
  { titledArticle with header := { Header.empty with title := some "T", cover := some (.image ⟨"a", none⟩) } }

section Sample

attribute [local instance] Room.usual

set_option maxRecDepth 100000 in
theorem convert_prefix_sample : Unfiltered Observer.empty ∧ ∃ r s r' s',
    convert ((trackedBy coveredArticle []).behind "a-") noFolders .empty = (.ok r, s) ∧
    convert ((trackedBy coveredArticle []).behind "") noFolders .empty = (.ok r', s') ∧
      (∃ e e' : Element, r.html = serialize e ∧ r'.html = serialize e' ∧
        Alike (IsBrought (trackedBy coveredArticle [])) "a-" "" e.toNode e'.toNode) ∧
      r'.warnings = r.warnings ∧ s'.features = s.features ∧
      ∃ blocks, Css.OnTemplates blocks ∧ s.rules.blocks = blocks.map (Css.fillBlock "a-") ∧
        s'.rules.blocks = blocks.map (Css.fillBlock "") := by
  have hconverted : isConverted (convert ((trackedBy coveredArticle []).behind "a-") noFolders .empty) = true := by
    decide +kernel
  have hconverted' : isConverted (convert ((trackedBy coveredArticle []).behind "") noFolders .empty) = true := by
    decide +kernel
  obtain ⟨r, s, hrun⟩ := exists_of_isConverted hconverted
  obtain ⟨r', s', hrun'⟩ := exists_of_isConverted hconverted'
  obtain ⟨⟨d, d', hhtml, hhtml', halike⟩, hrest⟩ := convert_prefix _ noFolders (fun _ => rfl) hrun hrun'
  exact ⟨fun _ => rfl, r, s, r', s', hrun, hrun', ⟨_, _, hhtml, hhtml', halike⟩, hrest⟩

end Sample

end AmpArticle.Page
