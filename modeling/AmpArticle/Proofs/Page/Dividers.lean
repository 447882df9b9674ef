import AmpArticle.Proofs.Page.Parts

/-!
The chain of dividers through a page. A divider learns what it stands before only when the next one is made, which may
be in another element of the page and after any number of items that left nothing behind.

Results:
- `settle_chained`: completing the dividers of a chain gives each the name of the part behind it, and changes nothing
  else;
- `opening_linked`: the children of the header and of the content are exactly the shown parts, each followed by its
  divider; and the class attribute of each divider names the kind in front of it, and the kind behind it exactly when
  another divider follows anywhere in the page.
-/

namespace AmpArticle.Page

open Markup (Element Node Mark)
open Extension (Observer)

variable {c : Setting} {s t : State}

/-! ## Dividers of a tree -/

mutual
/-- the dividers of a tree in document order -/
def dividersOf : Node → List Element
  | .text _ => []
  | .comment _ => []
  | .element tag mark attributes children =>
    (if Markup.Mark.isDivider mark then [⟨tag, mark, attributes, children⟩] else []) ++ dividersIn children

/-- the dividers of the nodes in document order -/
def dividersIn : List Node → List Element
  | [] => []
  | n :: rest => dividersOf n ++ dividersIn rest
end

mutual
theorem dividersOf_free : ∀ n : Node, n.isFree = true → dividersOf n = []
  | .text _, _ => by simp [dividersOf]
  | .comment _, _ => by simp [dividersOf]
  | .element tag mark attributes children, h => by
    simp only [Node.isFree, Bool.and_eq_true, Bool.not_eq_true'] at h
    simp [dividersOf, h.1, dividersIn_free children h.2]

theorem dividersIn_free : ∀ ns : List Node, Node.areFree ns = true → dividersIn ns = []
  | [], _ => by simp [dividersIn]
  | n :: rest, h => by
    simp only [Node.areFree, Bool.and_eq_true] at h
    simp [dividersIn, dividersOf_free n h.1, dividersIn_free rest h.2]
end

theorem dividersIn_append (ns ms : List Node) : dividersIn (ns ++ ms) = dividersIn ns ++ dividersIn ms := by
  induction ns with
  | nil => simp [dividersIn]
  | cons n ns ih => simp [dividersIn, ih]

mutual
theorem settle_free (s : State) : ∀ n : Node, n.isFree = true → s.settle n = n
  | .text _, _ => by simp [State.settle]
  | .comment _, _ => by simp [State.settle]
  | .element tag mark attributes children, h => by
    simp only [Node.isFree, Bool.and_eq_true, Bool.not_eq_true'] at h
    have hmark : ∀ number, mark ≠ some (.divider number) := by
      rintro number rfl
      simp [Markup.Mark.isDivider] at h
    simp only [State.settle, settleAll_free s children h.2]
    rfl

theorem settleAll_free (s : State) : ∀ ns : List Node, Node.areFree ns = true → s.settleAll ns = ns
  | [], _ => by simp [State.settleAll]
  | n :: rest, h => by
    simp only [Node.areFree, Bool.and_eq_true] at h
    simp [State.settleAll, settle_free s n h.1, settleAll_free s rest h.2]
end

theorem settleAll_append (s : State) (ns ms : List Node) :
    s.settleAll (ns ++ ms) = s.settleAll ns ++ s.settleAll ms := by
  induction ns with
  | nil => simp [State.settleAll]
  | cons n ns ih => simp [State.settleAll, ih]

theorem Built.Sound.areFree {b : Built} (h : b.Sound) : Node.areFree b.nodes = true := by
  refine (Node.areFree_iff _).2 fun n hn => ?_
  rcases List.mem_cons.1 hn with rfl | hn
  · exact h.free
  · have htext := h.text n hn
    cases n with
    | text content => rfl
    | comment content => cases htext
    | element tag mark attributes children => cases htext

/-! ## Completed dividers -/

/-- the class attribute of the divider at a place: the kind in front of it, and the kind of the next divider if any;
`kinds` are those of all dividers of the page -/
def dividerClass (p : String) (kinds : List String) (n : Nat) (kind : String) : String :=
  p ++ "spacing " ++ p ++ "after-" ++ kind ++
    match kinds[n + 1]? with
    | some next => " " ++ p ++ "before-" ++ next
    | none => ""

/-- the divider at a place once all dividers of the page are made -/
def completed (p : String) (kinds : List String) (n : Nat) (kind : String) : Element :=
  ⟨"div", some (.divider n), [⟨"class", some (dividerClass p kinds n kind)⟩], []⟩

theorem settle_openDivider {p : String} {kinds : List String} (h : s.dividers = kinds.map (beforeName p)) (n : Nat)
    (kind : String) : s.settle (openDivider p "spacing" n kind) = (completed p kinds n kind).toNode := by
  have hspacing : p ++ "spacing" ++ " " = p ++ "spacing " := by
    rw [String.append_assoc]
    rfl
  simp only [openDivider, State.settle, State.settleAll, State.completeDivider, h, List.getElem?_map, completed,
    dividerClass, Element.toNode]
  cases kinds[n + 1]? with
  | none => simp [openClasses, hspacing]
  | some next =>
    simp [openClasses, hspacing, Element.put, Element.setIn, Element.attribute?, beforeName, String.append_assoc]

/-- **Completing a chain.** Each divider is given the name of the part behind it, and nothing else changes. -/
theorem settle_chained {p : String} {kinds : List String} (h : s.dividers = kinds.map (beforeName p)) (n : Nat)
    (parts : List Part) (hparts : ∀ part ∈ parts, part.built.Sound) :
    s.settleAll (chained (openDivider p "spacing") n parts) =
      chained (fun n kind => (completed p kinds n kind).toNode) n parts := by
  induction parts generalizing n with
  | nil => simp [chained, State.settleAll]
  | cons part parts ih =>
    have hpart := (hparts part List.mem_cons_self).areFree
    have hrest := ih (n + 1) fun part' h' => hparts part' (List.mem_cons_of_mem _ h')
    simp only [chained, settleAll_append, State.settleAll, settleAll_free s _ hpart, settle_openDivider h, hrest]

theorem dividersOf_completed (p : String) (kinds : List String) (n : Nat) (kind : String) :
    dividersOf (completed p kinds n kind).toNode = [completed p kinds n kind] := by
  simp [completed, Element.toNode, dividersOf, dividersIn, Markup.Mark.isDivider]

theorem dividersIn_chained (p : String) (kinds : List String) (n : Nat) (parts : List Part)
    (hparts : ∀ part ∈ parts, part.built.Sound) :
    dividersIn (chained (fun n kind => (completed p kinds n kind).toNode) n parts) =
      parts.mapIdx fun i part => completed p kinds (n + i) part.kind := by
  induction parts generalizing n with
  | nil => simp [chained, dividersIn]
  | cons part parts ih =>
    have hpart := (hparts part List.mem_cons_self).areFree
    have hrest := ih (n + 1) fun part' h' => hparts part' (List.mem_cons_of_mem _ h')
    have hplace (i : Nat) : n + 1 + i = n + (i + 1) := by omega
    simp only [hplace] at hrest
    simp [chained, dividersIn_append, dividersIn, dividersIn_free _ hpart, dividersOf_completed, hrest,
      List.mapIdx_cons]

/-! ## The page -/

/-- what the header and the content of a page show: the cover as it is left, the lines of the header with their kinds,
and for each item what became of it -/
structure Layout where
  cover : Option Built
  lines : List (Element × String)
  fates : List (Item × Option Built)

namespace Layout

/-- the parts of the header -/
def top (l : Layout) : List Part := partOf "header-cover" l.cover ++ lineParts l.lines

/-- the parts of the content -/
def middle (l : Layout) : List Part := l.fates.flatMap fun x => partOf x.1.dividerKind x.2

/-- the kinds of all parts in document order -/
def kinds (l : Layout) : List String := (l.top ++ l.middle).map Part.kind

end Layout

/-- the element of a class that holds the parts from a place on, each with its completed divider -/
def linkedElement (p tag : String) (kinds : List String) (n : Nat) (parts : List Part) : Node :=
  .element tag none [⟨"class", some (p ++ tag)⟩] (chained (fun n kind => (completed p kinds n kind).toNode) n parts)

/-- what a page looks like behind its head, with `p` in front of its class names. The header is made from `s₁` to `s₂`,
the content from there to `s` -/
structure Linked [Room] (c : Setting) (p : String) (l : Layout) (page : Opening) (s₁ s₂ s : State) : Prop where
  headerRun : Runs (header c c.article.header) s₁ page.header s₂
  contentRun : Runs (content c c.article.items) s₂ page.content s
  cover : ∃ t, CoverFate c c.article.header.cover s₁ l.cover t
  lines : Shaped p l.lines (headerLines c.article.header)
  items : l.fates.map Prod.fst = c.article.items
  fates : Fates c s₂ l.fates s
  sound : ∀ part ∈ l.top ++ l.middle, part.built.Sound
  /-- in the header nothing stands behind a part but its divider -/
  alone : ∀ part ∈ l.top, part.built.tail = []
  header : ∃ b, page.header = some b ∧ b.tail = [] ∧ s.settle b.node = linkedElement p "header" l.kinds 0 l.top
  content : s.settle page.content.toNode = linkedElement p "article" l.kinds l.top.length l.middle

/-- the dividers of a page in document order: one for each shown part, completed by the kind of the next one -/
theorem Linked.dividers [Room] {p : String} {l : Layout} {page : Opening} {s₁ s₂ s : State} (h : Linked c p l page s₁ s₂ s) :
    dividersIn ((partNodes page.header ++ [page.content.toNode]).map s.settle) =
      l.kinds.mapIdx (completed p l.kinds) := by
  obtain ⟨b, hb, htail, hnode⟩ := h.header
  have htop := dividersIn_chained p l.kinds 0 l.top fun part hpart => h.sound part (List.mem_append_left _ hpart)
  have hmiddle := dividersIn_chained p l.kinds l.top.length l.middle fun part hpart =>
    h.sound part (List.mem_append_right _ hpart)
  have hsplit (f : Nat → String → Element) : l.kinds.mapIdx f =
      l.top.mapIdx (fun i part => f i part.kind) ++ l.middle.mapIdx fun i part => f (l.top.length + i) part.kind := by
    have hkind (parts : List Part) (g : Nat → String → Element) :
        (parts.map Part.kind).mapIdx g = parts.mapIdx fun i part => g i part.kind :=
      List.ext_getElem? fun i => by simp [Function.comp_def]
    simp [Layout.kinds, List.mapIdx_append, hkind, Nat.add_comm]
  rw [hsplit]
  simp only [Nat.zero_add] at htop
  simp [hb, partNodes, Built.nodes, htail, dividersIn, hnode, h.content, linkedElement, dividersOf, htop, hmiddle,
    Markup.Mark.isDivider]

theorem filter_absent {p : Extension.Point} {v w : Extension.Value} {extras : List Extension.Extra}
    (hp : s.observer.registry.at_ p = []) (h : Runs (Rendering.filter p v extras) s w t) : v = w ∧ Extends s t := by
  obtain ⟨hv, ht⟩ := filter_unregistered hp h
  rw [← ht]
  exact ⟨hv, rfl, rfl, rfl, fun _ => rfl, List.prefix_rfl, fun _ hf => hf⟩

theorem description_steady (c : Setting) : Steady (description c) fun _ => True := by
  refine steady_bind (steady_liftM (p := fun _ => True) fun _ _ => trivial) fun headline _ => ?_
  refine steady_bind (steady_liftM (p := fun _ => True) fun _ _ => trivial) fun summary _ => ?_
  split
  · exact steady_bind (p := fun _ => True) (steady_pure trivial) fun _ _ => steady_pure trivial
  · refine steady_bind (Rendering.resolve_steady _ _ _) fun size _ => ?_
    exact steady_bind (p := fun _ => True) (steady_pure trivial) fun _ _ => steady_pure trivial

theorem headParts_extends {h : Head} (hschema : s.observer.registry.at_ .schemaOrg = [])
    (hmaps : s.observer.registry.at_ .mapsApiKey = []) (hrun : Runs (headParts c) s h t) : Extends s t := by
  obtain ⟨charset, _, hrun₁, hrest⟩ := runs_bind.1 hrun
  have h₁ := (Rendering.create_steady _ _ _ _ _ _ hrun₁).1
  obtain ⟨canonical, _, hrun₂, hrest⟩ := runs_bind.1 hrest
  have h₂ := h₁.trans (Rendering.create_steady _ _ _ _ _ _ hrun₂).1
  obtain ⟨text, _, hmetadata, hrest⟩ := runs_bind.1 hrest
  obtain ⟨v, _, hdescription, hwrite⟩ := runs_bind.1 hmetadata
  have h₃ := h₂.trans (description_steady c _ _ _ hdescription).1
  obtain ⟨w, _, hfilter, hwritten⟩ := runs_bind.1 hwrite
  rw [← h₃.observer hmaps] at hschema
  obtain ⟨rfl, h₄⟩ := filter_absent hschema hfilter
  obtain ⟨-, rfl⟩ := runs_pure.1 hwritten
  obtain ⟨script, -, hrest⟩ := runs_liftM_bind.1 hrest
  obtain ⟨title, -, hrest⟩ := runs_liftM_bind.1 hrest
  obtain ⟨element, -, hend⟩ := runs_liftM_bind.1 hrest
  obtain ⟨-, rfl⟩ := runs_pure.1 hend
  exact h₃.trans h₄

/-- the element of a header or a content, once its dividers are completed -/
theorem settle_linked {p tag : String} {kinds : List String} {n : Nat} {parts : List Part} {nodes : List Node}
    (h : s.dividers = kinds.map (beforeName p)) (hparts : ∀ part ∈ parts, part.built.Sound)
    (hnodes : nodes = chained (openDivider p "spacing") n parts) :
    s.settle ((⟨tag, none, [⟨"class", some (p ++ tag)⟩], []⟩ : Element).append nodes).toNode =
      linkedElement p tag kinds n parts := by
  rw [linkedElement, ← settle_chained h n parts hparts, ← hnodes]
  simp [Element.append, Element.toNode, State.settle]

theorem header_adds {h : Header} {r : Option Built} (hcover : GentleAt s.observer .cover)
    (hheader : s.observer.registry.at_ .header = []) (hmaps : s.observer.registry.at_ .mapsApiKey = [])
    (hrun : Runs (header c h) s r t) :
    ∃ cover lines nodes, (∃ u, CoverFate c h.cover s cover u) ∧ (∀ b, cover = some b → b.tail = []) ∧
      Shaped s.classPrefix lines (headerLines h) ∧
      Adds s nodes (partOf "header-cover" cover ++ lineParts lines) t ∧
      r = some (.ofElement
        ((⟨"header", none, [⟨"class", some (s.classPrefix ++ "header")⟩], []⟩ : Element).append nodes)) := by
  obtain ⟨e, _, hcreate, hrest⟩ := runs_bind.1 hrun
  obtain ⟨rfl, rfl⟩ := createNamed_runs rfl hcreate
  obtain ⟨nodes, u, hparts, hfilter⟩ := runs_bind.1 hrest
  obtain ⟨cover, lines, v, ns, ms, rfl, hfate, htail, hadds, hlines⟩ := headerParts_adds hcover hmaps hparts
  have hall := hadds.append hlines.adds
  obtain ⟨w, _, hvalue, hend⟩ := runs_bind.1 hfilter
  rw [← hall.observer] at hheader hmaps
  obtain ⟨rfl, hextends⟩ := filter_absent hheader hvalue
  obtain ⟨rfl, rfl⟩ := runs_pure.1 hend
  refine ⟨cover, lines, ns ++ ms, ⟨v, hfate⟩, htail, ?_, ?_, rfl⟩
  · rw [← hadds.classPrefix]
    exact hlines.shapes
  · have hnone := hall.append (Adds.none hextends hmaps)
    simpa only [List.append_nil] using hnone

theorem content_adds [Room] {items : List Item} {e : Element} (hitem : GentleAt s.observer .articleItem)
    (hmaps : s.observer.registry.at_ .mapsApiKey = []) (h : Runs (content c items) s e t) :
    ∃ fates nodes, Fates c s fates t ∧ fates.map Prod.fst = items ∧
      Adds s nodes (fates.flatMap fun x => partOf x.1.dividerKind x.2) t ∧
      e = (⟨"article", none, [⟨"class", some (s.classPrefix ++ "article")⟩], []⟩ : Element).append nodes := by
  obtain ⟨e, _, hcreate, hrest⟩ := runs_bind.1 h
  obtain ⟨rfl, rfl⟩ := createNamed_runs rfl hcreate
  obtain ⟨nodes, hparts, rfl⟩ := runs_map.1 hrest
  obtain ⟨fates, hfates, hitems, hadds⟩ := contentParts_adds hitem hmaps hparts
  exact ⟨fates, nodes, hfates, hitems, hadds, rfl⟩

/-- **The chain of dividers.** When the header and the content of a page are made, with no filters but gentle ones of
the cover and of items, the children of both are the shown parts in order, each followed by its divider. What is shown
is the cover, the lines of the header and those items that are not blank, were built and were not dropped; every divider
names the kind it follows, and the kind of the next one if there is one, also from the header on to the content. -/
theorem opening_linked [Room] (c : Setting) {o : Observer} {page : Opening} {s : State} (ho : Gentle o)
    (h : Runs (opening c) (State.start c.properties.classPrefix o) page s) :
    ∃ l s₁ s₂, Runs (do let _ ← rootElement c; headParts c) (State.start c.properties.classPrefix o) page.head s₁ ∧
      Linked c c.properties.classPrefix l page s₁ s₂ s ∧
      dividersIn ((partNodes page.header ++ [page.content.toNode]).map s.settle) =
        l.kinds.mapIdx (completed c.properties.classPrefix l.kinds) := by
  obtain ⟨root, s₀, hroot, hrest⟩ := runs_bind.1 h
  have hschema : o.registry.at_ .schemaOrg = [] := ho.others _ (by decide) (by decide)
  have hmaps : o.registry.at_ .mapsApiKey = [] := ho.others _ (by decide) (by decide)
  have hheader : o.registry.at_ .header = [] := ho.others _ (by decide) (by decide)
  -- what comes before the header leaves the dividers and the registrations as they are at the start
  have hstart := (Rendering.create_steady _ _ _ _ _ _ hroot).1
  obtain ⟨head, s₁, hhead, hrest⟩ := runs_bind.1 hrest
  have hs₀ := hstart.observer hmaps
  have hbefore := hstart.trans (headParts_extends (by rw [hs₀]; exact hschema) (by rw [hs₀]; exact hmaps) hhead)
  have hs₁ : s₁.observer = o := hbefore.observer hmaps
  obtain ⟨top, s₂, htop, hrest⟩ := runs_bind.1 hrest
  obtain ⟨cover, lines, nodes, hcover, htail, hlines, hadds, rfl⟩ :=
    header_adds (by rw [hs₁]; exact ho.cover) (by rw [hs₁]; exact hheader) (by rw [hs₁]; exact hmaps) htop
  have hs₂ : s₂.observer = o := hadds.observer.trans hs₁
  obtain ⟨middle, s₃, hmiddle, hend⟩ := runs_bind.1 hrest
  obtain ⟨fates, nodes', hfates, hitems, hadds', rfl⟩ :=
    content_adds (by rw [hs₂]; exact ho.item) (by rw [hs₂]; exact hmaps) hmiddle
  obtain ⟨rfl, rfl⟩ := runs_pure.1 hend
  let l : Layout := ⟨cover, lines, fates⟩
  have hname : s₁.classPrefix = c.properties.classPrefix := hbefore.classPrefix
  have hspacing : s₁.rules.spacing = "spacing" := hbefore.spacing
  have hnone : s₁.dividers = [] := hbefore.dividers
  have hall := hadds.append hadds'
  -- the names kept for the dividers are those of all parts of the page
  have hdividers : s₃.dividers = l.kinds.map (beforeName c.properties.classPrefix) := by
    rw [hall.dividers, hnone, hname, List.nil_append, Layout.kinds, List.map_map]
    rfl
  have htopNodes : nodes = chained (openDivider c.properties.classPrefix "spacing") 0 l.top := by
    rw [hadds.nodes_eq, hname, hspacing, hnone]
    rfl
  have hmiddleNodes : nodes' = chained (openDivider c.properties.classPrefix "spacing") l.top.length l.middle := by
    rw [hadds'.nodes_eq, hadds.classPrefix, hadds.spacing, hadds.dividers, hname, hspacing, hnone, List.nil_append,
      List.length_map]
    rfl
  have halone : ∀ part ∈ l.top, part.built.tail = [] := by
    intro part hpart
    rcases List.mem_append.1 hpart with hpart | hpart
    · obtain ⟨b, hb, rfl⟩ := Option.map_eq_some_iff.1 (Option.mem_toList.1 hpart)
      exact htail b hb
    · obtain ⟨x, -, rfl⟩ := List.mem_map.1 hpart
      rfl
  have hlinked : Linked c c.properties.classPrefix l ⟨root, head, _, _⟩ s₁ s₂ s₃ :=
    { headerRun := htop
      contentRun := hmiddle
      cover := hcover
      lines := hname ▸ hlines
      items := hitems
      fates := hfates
      sound := hall.sound
      alone := halone
      header := by
        refine ⟨_, rfl, rfl, ?_⟩
        rw [hname]
        exact settle_linked hdividers (fun part hpart => hall.sound part (List.mem_append_left _ hpart)) htopNodes
      content := by
        rw [hadds.classPrefix, hname]
        exact settle_linked hdividers (fun part hpart => hall.sound part (List.mem_append_right _ hpart)) hmiddleNodes }
  exact ⟨l, s₁, s₂, runs_bind.2 ⟨_, _, hroot, hhead⟩, hlinked, hlinked.dividers⟩

/-- an article with a blank paragraph and a heading between two paragraphs, and with a cover -/
def sampleSetting : Setting where
  article :=
    { canonicalUrl := "", charset := "utf-8", style := "", rightToLeft := false
      header := { Header.empty with title := some "T", cover := some (.video ⟨"https://a/v", none⟩) }
      items := [.paragraph "a", .paragraph " ", .heading1 "b", .paragraph "c"], footer := none, extras := [] }
  properties := { Properties.usual with classPrefix := "x-" }
  resolver := ⟨.usual, default, default, false⟩

/-- filters that replace the cover and drop headings -/
def sampleFilters : Observer :=
  (Extension.Observer.empty.withFilter .cover (.replace "b") 10).withFilter .articleItem (.dropTag "h1") 10

theorem sampleFilters_gentle : Gentle sampleFilters where
  cover := gentleAt_of_actions fun e he => by
    obtain rfl : e = ⟨10, "0"⟩ := List.mem_singleton.1 he
    exact trivial
  item := gentleAt_of_actions fun e he => by
    obtain rfl : e = ⟨10, "1"⟩ := List.mem_singleton.1 he
    exact trivial
  others p hcover hitem := by
    cases p <;> first | rfl | contradiction

/-- the classes of the dividers of a page, when its beginning was made -/
def dividerClasses : Except Fault Opening × State → List (Option String)
  | (.ok page, s) =>
    (dividersIn ((partNodes page.header ++ [page.content.toNode]).map s.settle)).map (·.attribute? "class")
  | (.error _, _) => []

section Sample

attribute [local instance] Room.usual

set_option maxRecDepth 100000 in
theorem opening_linked_sample : Gentle sampleFilters ∧ ∃ page s,
    Runs (opening sampleSetting) (.start "x-" sampleFilters) page s ∧
    dividerClasses (.ok page, s) =
      [some "x-spacing x-after-header-cover x-before-header-bar",
        some "x-spacing x-after-header-bar x-before-header-h1", some "x-spacing x-after-header-h1 x-before-p",
        some "x-spacing x-after-p x-before-p", some "x-spacing x-after-p"] ∧
    ∃ l s₁ s₂, Runs (do let _ ← rootElement sampleSetting; headParts sampleSetting) (.start "x-" sampleFilters)
        page.head s₁ ∧
      Linked sampleSetting "x-" l page s₁ s₂ s ∧
      dividersIn ((partNodes page.header ++ [page.content.toNode]).map s.settle) =
        l.kinds.mapIdx (completed "x-" l.kinds) := by
  have hclasses : dividerClasses ((opening sampleSetting).run.run (.start "x-" sampleFilters)) =
      [some "x-spacing x-after-header-cover x-before-header-bar",
        some "x-spacing x-after-header-bar x-before-header-h1", some "x-spacing x-after-header-h1 x-before-p",
        some "x-spacing x-after-p x-before-p", some "x-spacing x-after-p"] := by decide +kernel
  refine ⟨sampleFilters_gentle, ?_⟩
  rcases hrun : (opening sampleSetting).run.run (.start "x-" sampleFilters) with ⟨_ | page, s⟩
  · rw [hrun] at hclasses
    cases hclasses
  · rw [hrun] at hclasses
    exact ⟨page, s, hrun, hclasses, opening_linked sampleSetting sampleFilters_gentle hrun⟩

end Sample

end AmpArticle.Page
