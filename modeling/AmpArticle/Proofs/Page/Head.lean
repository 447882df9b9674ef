import AmpArticle.Proofs.Page.Description
import AmpArticle.Proofs.Page.Unfiltered

/-!
The head of a page. Its elements are known to the last attribute, and the scripts of features are put in one after the
other at a place that moves on with each of them.

Results:
- `headParts_runs`: the elements that depend on the article, exactly;
- `insertScripts_append`: what the loop that puts in scripts leaves, wherever it begins;
- `addFeatureScripts_assemble`: one script for each used feature right behind the runtime, in the order of the features,
  between what stood around it.
-/

namespace AmpArticle.Page

open Markup (Element Node)

variable {c : Setting} {s t : State}

/-! ## Elements -/

/-- the element that holds a description -/
def metadataElement (v : Json) : Element := holding (plainElement "script" [("type", "application/ld+json")]) v.write

/-- the title of a page -/
def titleElement (text : String) : Element :=
  { Element.bare "title" with children := if text.isEmpty then [] else [.text text] }

/-- the elements of a head for a description and the text of a title -/
def headOf (c : Setting) (v : Json) (title : String) : Head where
  charset := plainElement "meta" [("charset", c.article.charset)]
  canonical := plainElement "link" [("rel", "canonical"), ("href", c.article.canonicalUrl)]
  metadata := metadataElement v
  title := titleElement title

/-- **What depends on the article in a head**: its description, and its title as text. -/
theorem headParts_runs {h : Head} (hs : Unfiltered s.observer) (hrun : Runs (headParts c) s h t) :
    ∃ v u w title, Runs (description c) u v w ∧ Markup.plainText (c.article.header.title.getD "") = .ok title ∧
      h = headOf c v title := by
  obtain ⟨charset, _, hrun₁, hrest⟩ := runs_bind.1 hrun
  obtain ⟨rfl, rfl⟩ := create_eq hrun₁
  obtain ⟨canonical, _, hrun₂, hrest⟩ := runs_bind.1 hrest
  obtain ⟨rfl, rfl⟩ := create_eq hrun₂
  obtain ⟨text, _, hmetadata, hrest⟩ := runs_bind.1 hrest
  obtain ⟨v, u, hdescription, hwrite⟩ := runs_bind.1 hmetadata
  obtain ⟨w, _, hfilter, hwritten⟩ := runs_bind.1 hwrite
  rw [← (description_steady c).keeping _ _ _ hs hdescription] at hs
  obtain ⟨rfl, -⟩ := filter_unregistered (hs .schemaOrg) hfilter
  obtain ⟨rfl, -⟩ := runs_pure.1 hwritten
  obtain ⟨script, hscript, hrest⟩ := runs_liftM_bind.1 hrest
  obtain ⟨_, -, hset⟩ := bind_ok_iff.1 hscript
  obtain rfl := pure_ok_iff.1 hset
  obtain ⟨title, htitle, hrest⟩ := runs_liftM_bind.1 hrest
  obtain ⟨element, helement, hend⟩ := runs_liftM_bind.1 hrest
  obtain ⟨_, -, hset⟩ := bind_ok_iff.1 helement
  obtain rfl := pure_ok_iff.1 hset
  obtain ⟨rfl, -⟩ := runs_pure.1 hend
  refine ⟨v, _, u, title, hdescription, htitle, ?_⟩
  -- the text of a description is not empty, and the title has no text before
  have hempty : Node.dropText (Element.bare "title").children = [] := rfl
  rw [headOf, titleElement, description_write hdescription, hempty, List.append_nil]
  rfl

theorem plainElement_tag (tag : String) (attributes : List (String × String)) :
    (plainElement tag attributes).tag = tag := (Element.putAll_children (Element.bare tag) attributes).1

/-! ## Scripts -/

/-- the scripts of features, in the order of the features -/
def scriptNodes (features : List Feature) : List Node := (Feature.inOrder features).map fun f => (featureScript f).toNode

/-- **The loop that puts in scripts** leaves them in order where it began, between what stood there. -/
theorem insertScripts_append (used features : List Feature) (front back : List Node) :
    insertScripts used features front.length (front ++ back) =
      front ++ (features.filter fun f => used.contains f).map (fun f => (featureScript f).toNode) ++ back := by
  induction features generalizing front with
  | nil => simp [insertScripts]
  | cons f rest ih =>
    simp only [insertScripts, List.filter_cons]
    split
    · -- the script is one more node in front of the place
      have hinsert : (front ++ back).insertIdx front.length (featureScript f).toNode =
          (front ++ [(featureScript f).toNode]) ++ back := by
        rw [List.append_assoc]
        induction front with
        | nil => rfl
        | cons n front ih' => simpa using ih'
      have hmoved := ih (front ++ [(featureScript f).toNode])
      rw [List.length_append, List.length_singleton] at hmoved
      rw [hinsert, hmoved]
      simp
    · exact ih front

/-- scripts are put in behind the first node that loads the runtime -/
theorem addFeatureScripts_runtime {used : List Feature} {e : Element} {early late : List Node} {runtime : Node}
    (he : e.children = early ++ runtime :: late) (hearly : ∀ n ∈ early, isRuntime n = false)
    (hruntime : isRuntime runtime = true) :
    addFeatureScripts used e = .ok { e with children := early ++ [runtime] ++ scriptNodes used ++ late } := by
  have hplace : e.children.findIdx? isRuntime = some early.length := by
    rw [he, List.findIdx?_append, List.findIdx?_eq_none_iff.2 hearly, List.findIdx?_cons, hruntime]
    simp
  have hinserted := insertScripts_append used Feature.all (early ++ [runtime]) late
  rw [List.length_append, List.length_singleton] at hinserted
  rw [addFeatureScripts, hplace]
  simp only [he]
  rw [show early ++ runtime :: late = early ++ [runtime] ++ late by simp, hinserted]
  rfl

/-! ## The head with its scripts -/

/-- the script that loads the runtime -/
def runtimeScript : Element := plainElement "script" [("async", ""), ("src", runtimeAddress)]

/-- what stands in a head in front of the runtime -/
def Head.early (h : Head) : List Node :=
  [h.charset.toNode, (plainElement "meta" [("name", "viewport"), ("content", viewportContent)]).toNode]

/-- what stands in a head behind the runtime, the scripts of features left out -/
def Head.late (h : Head) (css : Option String) : List Node :=
  let style := plainElement "style" [("amp-boilerplate", "")]
  [holding style boilerplate, (Element.bare "noscript").append [(holding style noScriptBoilerplate).toNode],
    h.canonical, sheetElement css, h.metadata, h.title].map Element.toNode

theorem assemble_children (h : Head) (css : Option String) :
    (h.assemble css).children = h.early ++ runtimeScript.toNode :: h.late css := rfl

theorem isRuntime_of_tag {e : Element} (h : e.tag ≠ "script") : isRuntime e.toNode = false := by
  simp [isRuntime, Node.element?, Element.toNode, h]

/-- **A head with its scripts**: they stand right behind the runtime, and the rest keeps its order. -/
theorem addFeatureScripts_assemble (c : Setting) (v : Json) (title : String) (used : List Feature)
    (css : Option String) :
    addFeatureScripts used ((headOf c v title).assemble css) =
      .ok { Element.bare "head" with
        children := (headOf c v title).early ++ [runtimeScript.toNode] ++ scriptNodes used ++
          (headOf c v title).late css } := by
  have hruntime : isRuntime runtimeScript.toNode = true := by decide
  rw [addFeatureScripts_runtime (assemble_children _ css) ?_ hruntime]
  · rfl
  · intro n hn
    rcases List.mem_cons.1 hn with rfl | hn
    · exact isRuntime_of_tag (by rw [headOf, plainElement_tag]; decide)
    · rw [List.mem_singleton.1 hn]
      decide

end AmpArticle.Page
