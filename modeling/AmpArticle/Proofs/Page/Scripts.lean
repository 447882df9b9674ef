import AmpArticle.Proofs.Page.Body
import AmpArticle.Proofs.Page.Metadata

/-!
Scripts and the elements that need them. A head declares the features that were used. The builders use a feature just
when they make its element, so every element that they make has its script, and the scripts are needed. Tracking
elements are the exception: one of them may be a pixel, which needs no script, and the script stands in the head all the
same; and what they hold is taken over as it is, so an element in one of them may be without its script.

Results:
- `Stages.scripted`: the head is as it was assembled, with one script for each used feature behind the runtime;
- `convert_scripts`: the elements that the builders make, and the tracking elements, have their scripts, and when an
  element inside of these has it;
- `convert_scripts_nested`: a video in a tracking element has none;
- `convert_idle_iff`: the only script without an element is that of tracking elements, and when it is there;
- `convert_idle_pixel`: a pixel alone brings it about.
-/

namespace AmpArticle.Page

open Markup (Element Node)
open Markup.Node (tagsIn)
open Extension (Observer)

variable {c : Setting} {s t : State}

/-! ## Declarations -/

/-- the custom element whose script a node is -/
def declared? (n : Node) : Option String := n.element?.bind fun e => e.attribute? "custom-element"

/-- the custom elements whose scripts are among the children of a head, in their order -/
def declarations (head : Element) : List String := head.children.filterMap declared?

/-- a head that is as it was before, but for one script for each used feature right behind the runtime -/
structure Scripted (plain head : Element) (features : List Feature) : Prop where
  placed : ∃ early late, plain.children = early ++ runtimeScript.toNode :: late ∧
    head.children = early ++ runtimeScript.toNode :: (scriptNodes features ++ late)
  /-- no other node declares a custom element -/
  plain : declarations plain = []
  declares : declarations head = (Feature.inOrder features).map Feature.tag

theorem declared?_featureScript (f : Feature) : declared? (featureScript f).toNode = some f.tag := by
  cases f <;> rfl

theorem declared?_sheetElement (css : Option String) : declared? (sheetElement css).toNode = none := by
  cases css <;> rfl

theorem declarations_assemble (v : Json) (title : String) (css : Option String) :
    declarations ((headOf c v title).assemble css) = [] := by
  rw [declarations, List.filterMap_eq_nil_iff]
  intro n hn
  obtain ⟨e, he, rfl⟩ := List.mem_map.1 hn
  simp only [List.mem_cons, List.not_mem_nil, or_false] at he
  rcases he with rfl | rfl | rfl | rfl | rfl | rfl | rfl | rfl | rfl
  case inr.inr.inr.inr.inr.inr.inl => exact declared?_sheetElement css
  all_goals rfl

theorem declarations_scriptNodes (features : List Feature) :
    (scriptNodes features).filterMap declared? = (Feature.inOrder features).map Feature.tag := by
  rw [scriptNodes, List.filterMap_map, ← List.filterMap_eq_map]
  exact List.filterMap_congr fun f _ => declared?_featureScript f

/-- a feature is declared once when it is used, and else not at all -/
theorem Scripted.count {plain head : Element} {features : List Feature} (h : Scripted plain head features)
    (g : Feature) : (declarations head).count g.tag = if g ∈ features then 1 else 0 := by
  rw [h.declares, List.count_map_of_injective _ _ Feature.tag_injective, Feature.inOrder]
  split
  · rename_i hused
    rw [List.count_filter (by simpa using hused)]
    cases g <;> rfl
  · rename_i hunused
    rw [List.count_eq_zero]
    intro hmem
    exact hunused (by simpa using (List.mem_filter.1 hmem).2)

theorem Scripted.mem_iff {plain head : Element} {features : List Feature} (h : Scripted plain head features)
    (g : Feature) : g.tag ∈ declarations head ↔ g ∈ features := by
  rw [← List.count_pos_iff, h.count]
  split <;> simp_all

/-! ## Heads and bodies of pages -/

namespace Stages

variable [Room] {f : Folders}

/-- **The head with its scripts.** -/
theorem scripted (d : Stages c f s) : Scripted (d.head.assemble d.css) d.top d.tracked.features := by
  obtain ⟨v, _, _, title, -, -, hhead, -, -⟩ := d.top_front
  have htop := d.topRun
  rw [hhead, addFeatureScripts_assemble, Except.ok.injEq] at htop
  have hplain := declarations_assemble (c := c) v title d.css
  refine ⟨⟨d.head.early, d.head.late d.css, assemble_children _ _, ?_⟩, hhead ▸ hplain, ?_⟩
  · rw [← htop, hhead]
    simp
  · have hruntime : declared? runtimeScript.toNode = none := rfl
    rw [declarations, assemble_children, List.filterMap_append, List.filterMap_cons_none hruntime] at hplain
    obtain ⟨hearly, hlate⟩ := List.append_eq_nil_iff.1 hplain
    rw [declarations, ← htop]
    simp only [List.filterMap_append, List.filterMap_cons_none hruntime, List.filterMap_nil, declarations_scriptNodes,
      hearly, hlate, List.nil_append, List.append_nil]

/-- the body of a finished page: the tracking elements, and behind them the parts with their dividers completed -/
def finishedBody (d : Stages c f s) : Element :=
  ⟨"body", none, [], insertedTracking c.properties.analytics ++ d.tracked.settleAll d.rest⟩

/-- no divider stands in the head or in a tracking element -/
theorem finished_children (d : Stages c f s) : d.finished.children = [d.top.toNode, d.finishedBody.toNode] := by
  obtain ⟨_, _, _, _, -, -, -, hfree, -⟩ := d.top_front
  have hinserted := Node.areFree_of_unmarked (insertedTracking_unmarked c.properties.analytics)
  rw [finished, settle_free _ _ hfree, (addAnalytics_runs d.bodyRun).1]
  simp [Element.append, Element.bare, Element.toNode, State.settle, settleAll_append, settleAll_free _ _ hinserted,
    finishedBody]

/-- the number of elements of a feature's tag behind the tracking elements of a finished body -/
theorem settled_count (d : Stages c f s) (g : Feature) : (tagsIn (d.tracked.settleAll d.rest)).count g.tag =
    (articleTags c).count g.tag + (tagsIn (articleMarkup c)).count g.tag := by
  rw [tagsIn_settleAll, d.rest_count]

end Stages

/-! ## Elements with scripts -/

/-- **Every element has its script.** A page without filters holds, besides what the markup of its article brings
along, the custom elements that the builders make, and the tracking elements; the feature of each is used, so its script
stands in the head, once and in its place. What a tracking element holds is not looked into: an element there has its
script just when it is a tracking element too, or the builders make one of its kind. -/
theorem convert_scripts [Room] (c : Setting) (f : Folders) {o : Observer} (ho : Unfiltered o) {r : Result} {s : State}
    (h : convert c f o = (.ok r, s)) :
    ∃ (d : Stages c f (begun c o)) (head body : Element) (others : List Node),
      r.html = serialize d.finished ∧ d.finished.children = [head.toNode, body.toNode] ∧
      Scripted (d.head.assemble d.css) head s.features ∧
      body.children = insertedTracking c.properties.analytics ++ others ∧
      ∀ g : Feature,
        (tagsIn others).count g.tag = (articleTags c).count g.tag + (tagsIn (articleMarkup c)).count g.tag ∧
        (g.tag ∈ articleTags c ∨ (∃ n ∈ insertedTracking c.properties.analytics, n.tag? = some g.tag) →
          g ∈ s.features ∧ (declarations head).count g.tag = 1) ∧
        (g.tag ∈ tagsIn (insertedTracking c.properties.analytics) →
          (declarations head).count g.tag = if g = .analytics ∨ g.tag ∈ articleTags c then 1 else 0) := by
  obtain ⟨d, hhtml, -, hfeatures⟩ := convert_stages ho h
  rw [hfeatures]
  have hmem (g : Feature) : g ∈ d.tracked.features ↔
      g.tag ∈ articleTags c ∨ g = .analytics ∧ insertedTracking c.properties.analytics ≠ [] := by
    rw [d.mem_features]
    exact or_iff_right List.not_mem_nil
  refine ⟨d, d.top, d.finishedBody, d.tracked.settleAll d.rest, hhtml, d.finished_children, d.scripted, rfl, fun g =>
    ⟨d.settled_count g, fun hmade => ?_, fun hheld => ?_⟩⟩
  · have hused : g ∈ d.tracked.features := by
      rw [hmem]
      rcases hmade with hmade | ⟨n, hn, htag⟩
      · exact .inl hmade
      · exact .inr ⟨insertedTracking_feature hn htag, List.ne_nil_of_mem hn⟩
    exact ⟨hused, by rw [d.scripted.count, if_pos hused]⟩
  · have hsome : insertedTracking c.properties.analytics ≠ [] := by
      rintro hnone
      rw [hnone] at hheld
      exact List.not_mem_nil hheld
    rw [d.scripted.count]
    refine if_congr ?_ rfl rfl
    rw [hmem, and_iff_left hsome, or_comm]

/-- an article without text, with a video as its cover and a slideshow of two pictures in its content -/
def picturedArticle : Article where
  canonicalUrl := ""
  charset := "utf-8"
  style := ""
  rightToLeft := false
  header := { Header.empty with title := some "T", cover := some (.video ⟨"v", none⟩) }
  items := [.slideshow ⟨[⟨"a", none⟩, ⟨"b", none⟩], none⟩]
  footer := none
  extras := []

/-- an article whose page is tracked -/
def trackedBy (article : Article) (markups : List String) : Setting where
  article := article
  properties := { Properties.usual with analytics := markups }
  resolver := ⟨.usual, default, default, false⟩

/-- what is inserted for a tracking element alone -/
theorem insertedTracking_analytics : insertedTracking ["<amp-analytics></amp-analytics>"] =
    [(Element.bare "amp-analytics").toNode] := by
  rfl

section Sample

attribute [local instance] Room.usual

set_option maxRecDepth 100000 in
theorem convert_scripts_sample : Unfiltered Observer.empty ∧
    ∃ r s, convert (trackedBy picturedArticle ["<amp-analytics></amp-analytics>"]) noFolders .empty = (.ok r, s) ∧
      ∃ head body root : Element, r.html = serialize root ∧ root.children = [head.toNode, body.toNode] ∧
        ∀ g ∈ [Feature.video, .carousel, .analytics], g ∈ s.features ∧ (declarations head).count g.tag = 1 := by
  have hconverted :
      isConverted (convert (trackedBy picturedArticle ["<amp-analytics></amp-analytics>"]) noFolders .empty) = true := by
    decide +kernel
  obtain ⟨r, s, hrun⟩ := exists_of_isConverted hconverted
  obtain ⟨d, head, body, _, hhtml, hchildren, -, -, helements⟩ := convert_scripts _ noFolders (fun _ => rfl) hrun
  refine ⟨fun _ => rfl, r, s, hrun, head, body, d.finished, hhtml, hchildren, fun g hg => (helements g).2.1 ?_⟩
  simp only [List.mem_cons, List.not_mem_nil, or_false] at hg
  rcases hg with rfl | rfl | rfl
  · exact .inl (by decide)
  · exact .inl (by decide)
  · exact .inr ⟨_, by rw [trackedBy, insertedTracking_analytics]; exact List.mem_singleton_self _, rfl⟩

/-- an article with a title and nothing else -/
def titledArticle : Article := { picturedArticle with header := { Header.empty with title := some "T" }, items := [] }

/-- what is inserted for a tracking element with a video in it -/
theorem insertedTracking_nested :
    insertedTracking ["<amp-analytics><amp-video src=\"v\"></amp-video></amp-analytics>"] =
      [((Element.bare "amp-analytics").append [((Element.bare "amp-video").put "src" "v").toNode]).toNode] := by
  rfl

set_option maxRecDepth 100000 in
/-- **A video in a tracking element** stands in the page, and its script does not. -/
theorem convert_scripts_nested : ∃ r s,
    convert (trackedBy titledArticle ["<amp-analytics><amp-video src=\"v\"></amp-video></amp-analytics>"]) noFolders
      .empty = (.ok r, s) ∧
      ∃ head body root : Element, r.html = serialize root ∧ root.children = [head.toNode, body.toNode] ∧
        "amp-video" ∈ tagsIn body.children ∧ Feature.video ∉ s.features ∧ "amp-video" ∉ declarations head := by
  let c := trackedBy titledArticle ["<amp-analytics><amp-video src=\"v\"></amp-video></amp-analytics>"]
  have hconverted : isConverted (convert c noFolders .empty) = true := by decide +kernel
  obtain ⟨r, s, hrun⟩ := exists_of_isConverted hconverted
  obtain ⟨d, hhtml, -, hfeatures⟩ := convert_stages (fun _ => rfl) hrun
  have hheld : "amp-video" ∈ tagsIn d.finishedBody.children := by
    have hinserted : "amp-video" ∈ tagsIn (insertedTracking c.properties.analytics) := by
      show _ ∈ tagsIn (insertedTracking ["<amp-analytics><amp-video src=\"v\"></amp-video></amp-analytics>"])
      rw [insertedTracking_nested]
      decide +kernel
    rw [Stages.finishedBody, Markup.Node.tagsIn_append]
    exact List.mem_append_left _ hinserted
  have hunused : Feature.video ∉ d.tracked.features := by
    rw [d.mem_features]
    rintro (hnone | hmade | ⟨htracking, -⟩)
    · cases hnone
    · exact absurd hmade (by decide)
    · cases htracking
  exact ⟨r, s, hrun, d.top, d.finishedBody, d.finished, hhtml, d.finished_children, hheld, hfeatures ▸ hunused,
    mt (d.scripted.mem_iff .video).1 hunused⟩

end Sample

/-! ## Scripts without elements -/

/-- the tags of the custom elements that an item comes to are not those of tracking elements -/
theorem analytics_not_itemTags [Room] (i : Item) : Feature.analytics.tag ∉ itemTags c i := by
  have hframe (isFramed : Bool) : Feature.analytics.tag ∉ frameTags isFramed := by cases isFramed <;> decide
  cases i with
  | slideshow s =>
    rw [show itemTags c (.slideshow s) =
      if s.images.isEmpty then [] else "amp-carousel" :: s.images.map fun _ => "amp-img" from rfl]
    split
    · exact List.not_mem_nil
    · rw [List.mem_cons, List.mem_map]
      rintro (h | ⟨_, -, h⟩)
      · exact absurd h (by decide)
      · exact absurd h (by decide)
  | interactive content => exact hframe _
  | socialEmbed content => exact hframe _
  | map pin => exact hframe _
  | ad advert => exact hframe _
  | image p => exact show Feature.analytics.tag ∉ ["amp-img"] by decide
  | animatedImage p => exact show Feature.analytics.tag ∉ ["amp-anim"] by decide
  | video p => exact show Feature.analytics.tag ∉ ["amp-video"] by decide
  | _ => exact List.not_mem_nil

theorem analytics_not_articleTags [Room] : Feature.analytics.tag ∉ articleTags c := by
  rw [articleTags, List.mem_append, List.mem_flatMap, List.mem_flatMap]
  rintro (⟨i, -, h⟩ | ⟨i, -, h⟩) <;> exact analytics_not_itemTags i h

/-- a feature without an element is that of tracking elements, none of which is read from the markup -/
theorem Stages.idle_iff [Room] {f : Folders} (d : Stages c f s) (hs : s.features = []) (g : Feature) :
    g.tag ∈ declarations d.top ∧ g.tag ∉ tagsIn [d.finishedBody.toNode] ↔
      g = .analytics ∧ ∃ elements, elements ≠ [] ∧ List.Forall₂ Tracks c.properties.analytics elements ∧
        g.tag ∉ tagsIn elements ∧ g.tag ∉ tagsIn (articleMarkup c) := by
  have hcount := d.settled_count g
  rw [d.scripted.mem_iff, d.mem_features, hs, Markup.Node.tagsIn_toNode, finishedBody, Markup.Node.tagsIn_append,
    List.mem_cons, List.mem_append, not_or, not_or, ← List.count_eq_zero (l := tagsIn (d.tracked.settleAll d.rest)),
    hcount, Nat.add_eq_zero_iff, List.count_eq_zero, List.count_eq_zero]
  constructor
  · rintro ⟨hused, -, hinserted, hmade, hmarkup⟩
    rcases hused with hnone | hmade' | ⟨rfl, hsome⟩
    · cases hnone
    · exact absurd hmade' hmade
    · exact ⟨rfl, _, hsome, insertedTracking_tracks hsome, hinserted, hmarkup⟩
  · rintro ⟨rfl, elements, hsome, htracks, hinserted, hmarkup⟩
    rw [insertedTracking_eq htracks]
    have hbody : Feature.analytics.tag ≠ "body" := by decide
    exact ⟨.inr (.inr ⟨rfl, hsome⟩), hbody, hinserted, analytics_not_articleTags, hmarkup⟩

/-- **Scripts without elements.** A head declares a custom element that its page does not hold just when it is that of
tracking elements: each piece of the markup for tracking is one, but none of them, and nothing in the article, is of
the kind that needs the script. -/
theorem convert_idle_iff [Room] (c : Setting) (f : Folders) {o : Observer} (ho : Unfiltered o) {r : Result} {s : State}
    (h : convert c f o = (.ok r, s)) :
    ∃ d : Stages c f (begun c o), r.html = serialize d.finished ∧ ∃ head body : Element,
      d.finished.children = [head.toNode, body.toNode] ∧
      ∀ g : Feature, g.tag ∈ declarations head ∧ g.tag ∉ tagsIn [body.toNode] ↔
        g = .analytics ∧ ∃ elements, elements ≠ [] ∧ List.Forall₂ Tracks c.properties.analytics elements ∧
          g.tag ∉ tagsIn elements ∧ g.tag ∉ tagsIn (articleMarkup c) := by
  obtain ⟨d, hhtml, -, -⟩ := convert_stages ho h
  exact ⟨d, hhtml, d.top, d.finishedBody, d.finished_children, d.idle_iff rfl⟩

/-- what is inserted for a pixel -/
theorem insertedTracking_pixel : insertedTracking ["<amp-pixel src=\"https://a/p\"></amp-pixel>"] =
    [((Element.bare "amp-pixel").put "src" "https://a/p").toNode] := by
  rfl

section Sample

attribute [local instance] Room.usual

set_option maxRecDepth 100000 in
theorem convert_idle_iff_sample : Unfiltered Observer.empty ∧
    ∃ r s, convert (trackedBy picturedArticle []) noFolders .empty = (.ok r, s) ∧
      ∃ head body root : Element, r.html = serialize root ∧ root.children = [head.toNode, body.toNode] ∧
        ∀ g : Feature, g.tag ∈ declarations head → g.tag ∈ tagsIn [body.toNode] := by
  have hconverted : isConverted (convert (trackedBy picturedArticle []) noFolders .empty) = true := by decide +kernel
  obtain ⟨r, s, hrun⟩ := exists_of_isConverted hconverted
  obtain ⟨d, hhtml, head, body, hchildren, hidle⟩ := convert_idle_iff _ noFolders (fun _ => rfl) hrun
  refine ⟨fun _ => rfl, r, s, hrun, head, body, d.finished, hhtml, hchildren, fun g hdeclared => ?_⟩
  by_contra habsent
  -- nothing is given for tracking
  obtain ⟨-, elements, hsome, htracks, -⟩ := (hidle g).1 ⟨hdeclared, habsent⟩
  exact hsome (List.forall₂_nil_left_iff.1 htracks)

end Sample

section Sample

attribute [local instance] Room.usual

set_option maxRecDepth 100000 in
/-- **A pixel alone** has the script of tracking elements stand in the head of a page that holds none that needs it. -/
theorem convert_idle_pixel : ∃ r s,
    convert (trackedBy titledArticle ["<amp-pixel src=\"https://a/p\"></amp-pixel>"]) noFolders .empty = (.ok r, s) ∧
      ∃ head body root : Element, r.html = serialize root ∧ root.children = [head.toNode, body.toNode] ∧
        "amp-analytics" ∈ declarations head ∧ "amp-analytics" ∉ tagsIn [body.toNode] := by
  have hconverted : isConverted (convert (trackedBy titledArticle ["<amp-pixel src=\"https://a/p\"></amp-pixel>"])
      noFolders .empty) = true := by
    decide +kernel
  obtain ⟨r, s, hrun⟩ := exists_of_isConverted hconverted
  obtain ⟨d, hhtml, -, -⟩ := convert_stages (fun _ => rfl) hrun
  have hinserted : insertedTracking
      (trackedBy titledArticle ["<amp-pixel src=\"https://a/p\"></amp-pixel>"]).properties.analytics ≠ [] := by
    rw [trackedBy, insertedTracking_pixel]
    exact List.cons_ne_nil _ _
  refine ⟨r, s, hrun, d.top, d.finishedBody, d.finished, hhtml, d.finished_children, (d.idle_iff rfl .analytics).2
    ⟨rfl, _, hinserted, insertedTracking_tracks hinserted, ?_, ?_⟩⟩
  · rw [trackedBy, insertedTracking_pixel]
    decide +kernel
  · decide +kernel

end Sample

end AmpArticle.Page
