import AmpArticle.Proofs.Json.Characters
import AmpArticle.Proofs.Page.Head
import AmpArticle.Proofs.Page.Serialized
import AmpArticle.Proofs.Properties

/-!
The description of an article in the head of its page. It is written as it is, so it can be read back from the page
unless one of its texts holds the end tag of the element around it.

Results:
- `block_split`: where the block stands in the text of a page;
- `blockBehind_iff`: what stands between its tags is the description exactly when no text of it holds the end tag;
- `convert_block_iff`: the same of every page that a conversion without filters comes to.
-/

namespace AmpArticle.Page

open Markup (Element Node)
open Extension (Observer)

variable {c : Setting} {s t : State}

/-! ## The head -/

theorem plainElement_free (tag : String) (attributes : List (String × String)) :
    (plainElement tag attributes).isFree = true := by
  have hfold (e : Element) : (attributes.foldl (fun e a => e.put a.1 a.2) e).isFree = e.isFree := by
    induction attributes generalizing e with
    | nil => rfl
    | cons a attributes ih => rw [List.foldl_cons, ih, Element.put_free]
  exact (hfold _).trans (Element.bare_free tag)

theorem holding_free {e : Element} (he : e.isFree = true) (text : String) : (holding e text).isFree = true := by
  rw [Element.isFree_eq, Bool.and_eq_true] at he ⊢
  exact ⟨he.1, rfl⟩

/-- what depends on the article in a head -/
structure HeadOf (v : Json) (h : Head) : Prop where
  charset : h.charset.isFree = true
  canonical : h.canonical.isFree = true
  title : h.title.isFree = true
  metadata : h.metadata = metadataElement v

theorem headOf_headOf (c : Setting) (v : Json) (title : String) : HeadOf v (headOf c v title) where
  charset := plainElement_free _ _
  canonical := plainElement_free _ _
  title := by
    rw [Element.isFree_eq, headOf, titleElement]
    dsimp only
    split_ifs <;> rfl
  metadata := rfl

/-- the nodes of a head in front of the description -/
def Head.front (h : Head) (features : List Feature) (css : Option String) : List Node :=
  let style := plainElement "style" [("amp-boilerplate", "")]
  ([h.charset, plainElement "meta" [("name", "viewport"), ("content", viewportContent)],
    plainElement "script" [("async", ""), ("src", runtimeAddress)]]
    ++ (Feature.inOrder features).map featureScript
    ++ [holding style boilerplate,
      (Element.bare "noscript").append [(holding style noScriptBoilerplate).toNode],
      h.canonical, sheetElement css]).map Element.toNode

theorem front_free {v : Json} {h : Head} (hh : HeadOf v h) (features : List Feature) (css : Option String) :
    Node.areFree (h.front features css) = true := by
  have hsheet : (sheetElement css).isFree = true := by
    unfold sheetElement
    cases css with
    | none => exact plainElement_free _ _
    | some css =>
      have he := plainElement_free "style" [("amp-custom", "")]
      rw [Element.isFree_eq, Bool.and_eq_true] at he ⊢
      refine ⟨he.1, ?_⟩
      dsimp only
      split_ifs <;> rfl
  have hnoscript (text : String) : ((Element.bare "noscript").append
      [(holding (plainElement "style" [("amp-boilerplate", "")]) text).toNode]).isFree = true :=
    Element.append_free (Element.bare_free "noscript") (by
      rw [Node.areFree, Node.areFree, Bool.and_true]
      exact holding_free (plainElement_free _ _) _)
  rw [Node.areFree_iff]
  intro n hn
  obtain ⟨e, he, rfl⟩ := List.mem_map.1 hn
  show e.isFree = true
  simp only [List.mem_append, List.mem_cons, List.not_mem_nil, or_false, List.mem_map] at he
  rcases he with ((rfl | rfl | rfl) | ⟨f, -, rfl⟩) | rfl | rfl | rfl | rfl
  · exact hh.charset
  · exact plainElement_free _ _
  · exact plainElement_free _ _
  · exact plainElement_free _ _
  · exact holding_free (plainElement_free _ _) _
  · exact hnoscript _
  · exact hh.canonical
  · exact hsheet

/-! ## The block in a page -/

/-- the start tag of the element that holds a description -/
def blockStart : String := "<script type=\"application/ld+json\">"

/-- the end tag of the element that holds a description -/
def blockEnd : String := "</script>"

/-- the markup of a page in front of the start tag, with `early` the nodes of its head up to there -/
def headFront (root : Element) (early : List Node) : String :=
  Markup.writeStart root.tag root.attributes ++ "<head>" ++ Markup.writeNodes false early

theorem write_metadataElement (v : Json) :
    Markup.writeNode false (metadataElement v).toNode = blockStart ++ v.write ++ blockEnd := by
  have hstart : Markup.writeStart "script" [⟨"type", some "application/ld+json"⟩] = blockStart := by decide +kernel
  have hvoid : Markup.isVoid ("script".map Char.toLower) = false := by decide +kernel
  have hraw : Markup.isRawText "script" = true := by decide +kernel
  have hitem : ("script".map Char.toLower == "li") = false := by decide +kernel
  have hend (children : List Node) : Markup.writeEnd "script" children = blockEnd := by
    rw [Markup.writeEnd, hitem]
    rfl
  show Markup.writeNode false (.element "script" none [⟨"type", some "application/ld+json"⟩] [.text v.write]) = _
  rw [Markup.writeNode, hvoid, hraw, hstart, hend]
  simp [Markup.writeNodes, Markup.writeNode]

theorem writeNodes_append (raw : Bool) (ns ms : List Node) :
    Markup.writeNodes raw (ns ++ ms) = Markup.writeNodes raw ns ++ Markup.writeNodes raw ms := by
  induction ns with
  | nil => simp [Markup.writeNodes]
  | cons n ns ih => simp [Markup.writeNodes, ih, String.append_assoc]

/-- a page with a description in its head, behind the nodes `early` -/
structure HasMetadata (root : Element) (early : List Node) (v : Json) : Prop where
  tag : root.tag = "html"
  children : ∃ late body, root.children =
    [((Element.bare "head").append (early ++ (metadataElement v).toNode :: late)).toNode, body]

theorem write_hasMetadata {root : Element} {early : List Node} {v : Json} (h : HasMetadata root early v) :
    ∃ rest, root.write = headFront root early ++ (blockStart ++ v.write ++ blockEnd) ++ rest := by
  obtain ⟨tag, mark, attributes, children⟩ := root
  obtain ⟨rfl, late, body, rfl⟩ := h
  have hvoid : Markup.isVoid ("html".map Char.toLower) = false ∧ Markup.isVoid ("head".map Char.toLower) = false := by
    decide +kernel
  have hraw : Markup.isRawText "html" = false ∧ Markup.isRawText "head" = false := by decide +kernel
  have hstart : Markup.writeStart "head" [] = "<head>" := by decide +kernel
  have hmetadata := write_metadataElement v
  generalize (metadataElement v).toNode = n at hmetadata
  simp only [Element.write, Element.toNode, Element.append, Element.bare, List.nil_append, Markup.writeNode,
    Markup.writeNodes, hvoid, hraw, hstart, hmetadata, writeNodes_append, headFront, Bool.false_eq_true, if_false,
    String.append_assoc]
  exact ⟨_, rfl⟩

/-- the text of a page in front of the start tag -/
def pageFront (root : Element) (early : List Node) : List Char :=
  docType.toList ++ squeeze (headFront root early).toList

theorem blockStart_eq : blockStart.toList = '<' :: "script type=\"application/ld+json\"".toList ++ ['>'] := by
  decide

theorem blockEnd_eq : blockEnd.toList = '<' :: "/script>".toList := by decide

theorem squeeze_block (v : Json) : squeeze (blockStart.toList ++ v.write.toList) = blockStart.toList ++ v.write.toList := by
  refine squeeze_of_not_droppable (not_droppable_of_absent ?_)
  rw [blockStart_eq, List.append_assoc, List.singleton_append, Text.infix_append_cons (by decide) (by decide)]
  rintro (h | h)
  · exact absurd h (by decide)
  · exact Json.not_emptyMark_write v h

/-- **Where the block stands in the text of a page.** Dropping the values of empty attributes leaves it as it is. -/
theorem block_split {root : Element} {early : List Node} {v : Json} (h : HasMetadata root early v) :
    ∃ rest, (serialize root).toList =
      pageFront root early ++ blockStart.toList ++ (v.write.toList ++ (blockEnd.toList ++ rest)) := by
  obtain ⟨rest, hwrite⟩ := write_hasMetadata h
  have hblank : ∀ c ∈ blockEnd.toList, Text.isBlank c = false := by decide
  have hbehind : squeeze (blockStart.toList ++ v.write.toList ++ (blockEnd.toList ++ rest.toList)) =
      blockStart.toList ++ v.write.toList ++ (blockEnd.toList ++ squeeze rest.toList) := by
    calc squeeze (blockStart.toList ++ v.write.toList ++ (blockEnd.toList ++ rest.toList))
        = squeeze (blockStart.toList ++ v.write.toList) ++ squeeze (blockEnd.toList ++ rest.toList) := by
          rw [blockEnd_eq, List.cons_append, squeeze_append outside_open]
      _ = blockStart.toList ++ v.write.toList ++ (blockEnd.toList ++ squeeze rest.toList) := by
          rw [squeeze_block, squeeze_append_of_notBlank hblank]
  have hfront (ys : List Char) : squeeze ((headFront root early).toList ++ (blockStart.toList ++ ys)) =
      squeeze (headFront root early).toList ++ squeeze (blockStart.toList ++ ys) := by
    rw [blockStart_eq, List.cons_append, List.cons_append, squeeze_append outside_open]
  refine ⟨squeeze rest.toList, ?_⟩
  rw [serialize_eq, hwrite, pageFront]
  simp only [String.toList_append, List.append_assoc] at hbehind ⊢
  rw [hfront, hbehind]

/-! ## The block and the next end tag -/

/-- what stands behind a part of a page, up to the next end tag -/
def blockBehind (html front : List Char) : List Char := Text.before blockEnd.toList (html.drop front.length)

/-- **The block ends at the next end tag** exactly when none of its texts holds one. -/
theorem blockBehind_iff {root : Element} {early : List Node} {v : Json} (h : HasMetadata root early v) :
    blockBehind (serialize root).toList (pageFront root early ++ blockStart.toList) = v.write.toList ↔
      ∀ text ∈ v.texts, ¬ blockEnd.toList <:+: text.toList := by
  obtain ⟨rest, hsplit⟩ := block_split h
  have hmark : Json.Marking '<' "/script>".toList fun text => '<' :: "/script>".toList <:+: text.toList :=
    Json.marking_of_plain ⟨by decide, by decide, by decide⟩ (by decide) (by decide)
  rw [blockBehind, hsplit, List.drop_left, blockEnd_eq, List.cons_append, Text.before_eq_iff (by decide),
    Json.infix_write hmark]
  simp only [not_exists, not_and]

/-! ## Whole pages -/

/-- the head of a page with its scripts; no divider stands in it -/
theorem Stages.top_front [Room] {f : Folders} (d : Stages c f s) :
    ∃ v u w title, Runs (description c) u v w ∧ Markup.plainText (c.article.header.title.getD "") = .ok title ∧
      d.head = headOf c v title ∧ d.top.isFree = true ∧
      d.top = (Element.bare "head").append
        (d.head.front d.tracked.features d.css ++ [d.head.metadata.toNode, d.head.title.toNode]) := by
  obtain ⟨v, u, w, title, hdescription, htitle, hhead⟩ := headParts_runs d.rootedUnfiltered d.headRun
  have htop := d.topRun
  rw [hhead, addFeatureScripts_assemble, Except.ok.injEq] at htop
  replace htop : (Element.bare "head").append ((headOf c v title).front d.tracked.features d.css ++
      [(metadataElement v).toNode, (titleElement title).toNode]) = d.top := by
    rw [← htop]
    simp [Head.front, Head.early, Head.late, headOf, scriptNodes, runtimeScript, Element.append, Element.bare]
  refine ⟨v, u, w, title, hdescription, htitle, hhead, ?_, by rw [hhead, ← htop]; rfl⟩
  rw [← htop]
  refine Element.append_free (Element.bare_free "head") ?_
  rw [Node.areFree_append, front_free (headOf_headOf c v title)]
  simp only [Node.areFree, Bool.and_true, Bool.true_and, Bool.and_eq_true]
  exact ⟨holding_free (plainElement_free _ _) _, (headOf_headOf c v title).title⟩

/-- a page without filters has the description in its head -/
theorem convert_hasMetadata [Room] {f : Folders} {o : Observer} (ho : Unfiltered o)
    (hpublisher : ∀ v, c.properties.publisher = some v → v.WellFormed) {r : Result}
    (h : convert c f o = (.ok r, t)) :
    ∃ v head features root, Always (description c) v ∧ v.WellFormed ∧ HeadOf v head ∧
      HasMetadata root (head.front features r.css) v ∧ r.html = serialize root := by
  obtain ⟨d, hhtml, hcss, -⟩ := convert_stages ho h
  obtain ⟨v, _, _, title, hdescription, -, hhead, hfree, htop⟩ := d.top_front
  refine ⟨v, headOf c v title, d.tracked.features, d.finished, description_uniform c _ _ _ hdescription,
    description_wellFormed hpublisher hdescription, headOf_headOf c v title, ⟨rfl, [(titleElement title).toNode],
      d.tracked.settle d.body.toNode, ?_⟩, hhtml⟩
  rw [Stages.finished, settle_free _ _ hfree, htop, hhead, hcss]
  rfl

/-- **The block in a page.** A publisher that is read is a proper value (`Properties.publisher_of_load`). -/
theorem convert_block_iff [Room] (c : Setting) (f : Folders) {o : Observer} (ho : Unfiltered o)
    (hpublisher : ∀ v, c.properties.publisher = some v → v.WellFormed) {r : Result} {s : State}
    (h : convert c f o = (.ok r, s)) :
    ∃ v head features root, Always (description c) v ∧ HeadOf v head ∧
      HasMetadata root (head.front features r.css) v ∧ r.html = serialize root ∧
      (pageFront root (head.front features r.css) ++ blockStart.toList <+: r.html.toList) ∧
      (blockBehind r.html.toList (pageFront root (head.front features r.css) ++ blockStart.toList) = v.write.toList ↔
        ∀ text ∈ v.texts, ¬ blockEnd.toList <:+: text.toList) ∧
      Json.read v.write = .ok v := by
  obtain ⟨v, head, features, root, hv, hproper, hof, hmetadata, hhtml⟩ := convert_hasMetadata ho hpublisher h
  refine ⟨v, head, features, root, hv, hof, hmetadata, hhtml, ?_, ?_, Json.read_write hproper⟩
  · obtain ⟨rest, hsplit⟩ := block_split hmetadata
    rw [hhtml, hsplit]
    exact List.prefix_append _ _
  · rw [hhtml]
    exact blockBehind_iff hmetadata

/-- an article of a publisher, with a title and nothing else -/
def publishedBy (name : String) : Setting where
  article :=
    { canonicalUrl := "", charset := "utf-8", style := "", rightToLeft := false
      header := { Header.empty with title := some "T" }, items := [], footer := none, extras := [] }
  properties := { Properties.usual with publisher := some (.text name) }
  resolver := ⟨.usual, default, default, false⟩

/-- folders with nothing in them -/
def noFolders : Folders := ⟨"", ""⟩

/-- whether a conversion has come to a page -/
def isConverted : Except Fault Result × State → Bool
  | (.ok _, _) => true
  | (.error _, _) => false

theorem exists_of_isConverted [Room] {c : Setting} {f : Folders} {o : Observer} (h : isConverted (convert c f o) = true) :
    ∃ r s, convert c f o = (.ok r, s) := by
  rcases hrun : convert c f o with ⟨_ | r, s⟩
  · rw [hrun] at h
    cases h
  · exact ⟨r, s, rfl⟩

section Sample

attribute [local instance] Room.usual

/-- the publisher of these options as it is read from the text that they are written as -/
theorem publishedBy_wellFormed (name : String) :
    ∀ v, (publishedBy name).properties.publisher = some v → v.WellFormed := by
  have hwritten : (Json.object [("publisher", .text name)]).WellFormed := ⟨List.nodup_singleton _, trivial, trivial⟩
  have hload : Json.load .optionsFile (Json.object [("publisher", .text name)]).write =
      .ok (.object [("publisher", .text name)]) := Json.readWithin_write hwritten ⟨by decide, trivial, trivial⟩
  exact Properties.publisher_of_load (o := .value) hload rfl

set_option maxRecDepth 100000 in
theorem convert_block_iff_sample : Unfiltered Observer.empty ∧
    (∀ v, (publishedBy "P").properties.publisher = some v → v.WellFormed) ∧
    ∃ r s, convert (publishedBy "P") noFolders .empty = (.ok r, s) ∧
      ∃ v head features root, Always (description (publishedBy "P")) v ∧ HeadOf v head ∧
        HasMetadata root (head.front features r.css) v ∧ r.html = serialize root ∧
        (pageFront root (head.front features r.css) ++ blockStart.toList <+: r.html.toList) ∧
        (blockBehind r.html.toList (pageFront root (head.front features r.css) ++ blockStart.toList) = v.write.toList ↔
          ∀ text ∈ v.texts, ¬ blockEnd.toList <:+: text.toList) ∧
        Json.read v.write = .ok v := by
  have hconverted : isConverted (convert (publishedBy "P") noFolders .empty) = true := by decide +kernel
  obtain ⟨r, s, hrun⟩ := exists_of_isConverted hconverted
  refine ⟨fun _ => rfl, publishedBy_wellFormed "P", r, s, hrun, ?_⟩
  exact convert_block_iff (publishedBy "P") noFolders (fun _ => rfl) (publishedBy_wellFormed "P") hrun

end Sample

/-- what is left of the description of an article whose publisher is called like the end tag -/
def cutDescription : String :=
  "\x7b\"@context\": \"http://schema.org\", \"@type\": \"NewsArticle\", \"mainEntityOfPage\": \"\", " ++
    "\"headline\": \"T\", \"publisher\": \x7b\"@type\": \"Organization\", \"name\": \""

/-- the description of such an article -/
def endTagDescription : Json :=
  .object [("@context", .text "http://schema.org"), ("@type", .text "NewsArticle"), ("mainEntityOfPage", .text ""),
    ("headline", .text "T"),
    ("publisher", .object [("@type", .text "Organization"), ("name", .text blockEnd)])]

set_option maxRecDepth 100000 in
theorem plainText_title : Markup.plainText "T" = .ok "T" := by
  have hplain : (Markup.plainText "T").toOption = some "T" := by decide +kernel
  cases h : Markup.plainText "T" with
  | error fault =>
    rw [h] at hplain
    cases hplain
  | ok s =>
    rw [h] at hplain
    exact congrArg Except.ok (Option.some.inj hplain)

theorem endTagDescription_always : Always (description (publishedBy blockEnd)) endTagDescription := by
  have htitle : "T".isEmpty = false := by decide
  have hheadline : textOfMarkup (some "T") = .ok (some (.text "T")) := by
    simp [textOfMarkup, Option.filter, htitle, plainText_title]
    rfl
  have hname : blockEnd.isEmpty = false := by decide
  have hpublisher : publisherObject? (some (.text blockEnd)) =
      some (.object [("@type", .text "Organization"), ("name", .text blockEnd)]) := by
    simp [publisherObject?, hname]
  have hgiven : (publishedBy blockEnd).properties.publisher = some (.text blockEnd) := rfl
  have hsummary : textOfMarkup (firstParagraph? (publishedBy blockEnd).article.items) = .ok none := rfl
  have halways := description_always (c := publishedBy blockEnd) hheadline hsummary rfl
  rw [descriptionEntries, hgiven, hpublisher] at halways
  exact halways

theorem endTagDescription_write :
    endTagDescription.write.toList = cutDescription.toList ++ blockEnd.toList ++ "\"\x7d\x7d".toList := by
  decide +kernel

section Sample

attribute [local instance] Room.usual

set_option maxRecDepth 100000 in
theorem convert_block_cut : ∃ r s v head features root,
    convert (publishedBy blockEnd) noFolders .empty = (.ok r, s) ∧ Always (description (publishedBy blockEnd)) v ∧
      HeadOf v head ∧ HasMetadata root (head.front features r.css) v ∧ r.html = serialize root ∧
      blockBehind r.html.toList (pageFront root (head.front features r.css) ++ blockStart.toList) =
        cutDescription.toList ∧
      cutDescription ≠ v.write ∧ ∀ w, Json.read cutDescription ≠ .ok w := by
  have hconverted : isConverted (convert (publishedBy blockEnd) noFolders .empty) = true := by decide +kernel
  obtain ⟨r, s, hrun⟩ := exists_of_isConverted hconverted
  obtain ⟨v, head, features, root, hv, hproper, hof, hmetadata, hhtml⟩ :=
    convert_hasMetadata (fun _ => rfl) (publishedBy_wellFormed blockEnd) hrun
  obtain rfl := always_unique endTagDescription_always hv
  obtain ⟨rest, hsplit⟩ := block_split hmetadata
  refine ⟨r, s, endTagDescription, head, features, root, hrun, hv, hof, hmetadata, hhtml, ?_, ?_, ?_⟩
  · have hcut : ¬ '<' :: "/script>".toList <:+: cutDescription.toList := by decide +kernel
    rw [hhtml, blockBehind, hsplit, List.drop_left, endTagDescription_write, List.append_assoc, List.append_assoc,
      blockEnd_eq, List.cons_append, Text.before_append (by decide) hcut]
  · intro h
    have hlength := congrArg (·.toList.length) h
    simp only [endTagDescription_write, List.length_append] at hlength
    have hend : 0 < blockEnd.toList.length := by decide +kernel
    omega
  · have hfails : (Json.read cutDescription).isOk = false := by decide +kernel
    intro w hw
    rw [hw] at hfails
    cases hfails

end Sample

end AmpArticle.Page
