import AmpArticle.Page.Document
import AmpArticle.Proofs.Page.Builders

/-!
The parts of a page and what became of them. The cover and every item is built or not, dropped by a filter or shown;
what is shown is followed by its divider.

Filters of covers and items may give back the element, drop it or give a new one (`Gentle`); all other filters are
absent.

Results:
- `gentleAt_of_actions`: filters that keep, drop or replace an element, or set its attributes, are gentle;
- `Adds`, the invariant of the steps: what was added to a page is a chain of parts whose dividers are numbered from
  where the chain began, and the names kept for the dividers are those of the parts;
- `headerParts_adds`, `contentParts_adds`: the header adds its cover and its lines, the content those items that are
  shown (`Fates`).
-/

namespace AmpArticle.Page

open Markup (Element Node Mark)
open Extension (Observer Value Extra Point)

variable {c : Setting} {s t u : State}

/-! ## Parts and their dividers -/

/-- a part of a page with the kind that its divider bears -/
structure Part where
  built : Built
  kind : String
  deriving Inhabited

/-- parts in order, each followed by the divider that `link` gives for its place and kind -/
def chained (link : Nat → String → Node) : Nat → List Part → List Node
  | _, [] => []
  | n, part :: rest => part.built.nodes ++ link n part.kind :: chained link (n + 1) rest

theorem chained_append (link : Nat → String → Node) (n : Nat) (ps qs : List Part) :
    chained link n (ps ++ qs) = chained link n ps ++ chained link (n + ps.length) qs := by
  induction ps generalizing n with
  | nil => rfl
  | cons part ps ih =>
    have hlength : n + 1 + ps.length = n + (ps.length + 1) := by omega
    simp [chained, ih, hlength]

/-- the class name that a divider gives to the one before it -/
def beforeName (p kind : String) : String := p ++ "before-" ++ kind

/-- what steps that add parts to a page leave behind: the parts are sound, each has its divider, and the names kept for
the dividers before them are theirs; names and registrations stay -/
structure Adds (s : State) (nodes : List Node) (parts : List Part) (t : State) : Prop where
  nodes_eq : nodes = chained (openDivider s.classPrefix s.rules.spacing) s.dividers.length parts
  sound : ∀ part ∈ parts, part.built.Sound
  dividers : t.dividers = s.dividers ++ parts.map fun part => beforeName s.classPrefix part.kind
  classPrefix : t.classPrefix = s.classPrefix
  spacing : t.rules.spacing = s.rules.spacing
  observer : t.observer = s.observer

namespace Adds

theorem none (h : Extends s t) (hmaps : s.observer.registry.at_ .mapsApiKey = []) : Adds s [] [] t :=
  ⟨rfl, by simp, by simp [h.dividers], h.classPrefix, h.spacing, h.observer hmaps⟩

theorem append {ns ms : List Node} {ps qs : List Part} (h : Adds s ns ps t) (k : Adds t ms qs u) :
    Adds s (ns ++ ms) (ps ++ qs) u where
  nodes_eq := by
    rw [chained_append, h.nodes_eq, k.nodes_eq, h.classPrefix, h.spacing, h.dividers]
    simp
  sound := fun part hpart => (List.mem_append.1 hpart).elim (h.sound part) (k.sound part)
  dividers := by rw [k.dividers, h.dividers, h.classPrefix, List.map_append, List.append_assoc]
  classPrefix := k.classPrefix.trans h.classPrefix
  spacing := k.spacing.trans h.spacing
  observer := k.observer.trans h.observer

/-- a part that was built between `s` and `t`, then its divider -/
theorem part {b : Built} {kind : String} {d : Node} (hst : Adds s [] [] t) (hb : b.Sound)
    (hrun : Runs (Rendering.divider kind) t d u) : Adds s (b.nodes ++ [d]) [⟨b, kind⟩] u := by
  obtain ⟨rfl, rfl⟩ := divider_runs hrun
  have hsound : ∀ part ∈ [Part.mk b kind], part.built.Sound := by
    intro part hpart
    rw [List.mem_singleton.1 hpart]
    exact hb
  exact hst.append ⟨by simp [chained, Built.nodes], hsound, rfl, rfl, rfl, rfl⟩

end Adds

/-! ## Filters of elements -/

/-- what filters of elements may pass on: nothing, or a node that is no text and free of dividers -/
def IsPart : Value → Prop
  | .plain v => v = .null
  | .node n _ => n.isFree = true ∧ n.isText = false

/-- each filter at a point, given an element or nothing, touches nothing else: it gives the element, nothing, or a new
element -/
def GentleAt (o : Observer) (p : Point) : Prop :=
  ∀ e ∈ o.registry.at_ p, ∀ extras v, IsPart v →
    let done := Observer.run o.action extras Observer.maxNesting e.handler v o.registry
    done.fault = none → done.registry = o.registry ∧ IsPart done.value

/-- only covers and items have filters, and these are gentle -/
structure Gentle (o : Observer) : Prop where
  cover : GentleAt o .cover
  item : GentleAt o .articleItem
  others : ∀ p, p ≠ .cover → p ≠ .articleItem → o.registry.at_ p = []

/-- the actions that are gentle whatever else is registered: they keep, drop or replace the element, or set one of its
attributes -/
def isGentleAction : Extension.Action → Prop
  | .keep | .drop | .setAttribute _ _ | .replace _ | .dropTag _ => True
  | .custom f => ∀ extras v w, IsPart v → f extras v = .ok w → IsPart w
  | _ => False

theorem settle_gentle {v w : Value} {registry kept : Extension.Registry String} {r : Except Fault Value}
    (hr : ∀ w, r = .ok w → IsPart w) (h : Observer.settle v registry r = ⟨w, kept, none⟩) :
    kept = registry ∧ IsPart w := by
  cases r with
  | error fault => cases h
  | ok w' =>
    cases h
    exact ⟨rfl, hr _ rfl⟩

theorem setAttribute_part {v w : Value} {name value : Json} (hv : IsPart v) (h : v.setAttribute name value = .ok w) :
    IsPart w := by
  unfold Value.setAttribute at h
  split at h
  · rename_i tag mark attributes children same
    obtain ⟨_, -, h⟩ := bind_ok_iff.1 h
    obtain ⟨_, -, h⟩ := bind_ok_iff.1 h
    obtain ⟨e, he, h⟩ := bind_ok_iff.1 h
    rw [← pure_ok_iff.1 h, Markup.Element.set_eq_put he]
    have hfree : (⟨tag, mark, attributes, children⟩ : Element).isFree = true := hv.1
    rw [← Element.put_free _ _ _] at hfree
    exact ⟨hfree, rfl⟩
  · cases h
  · cases h

theorem replace_part {v w : Value} {tag : String} (h : v.replace tag = .ok w) : IsPart w := by
  unfold Value.replace at h
  split at h
  · obtain ⟨e, he, h⟩ := bind_ok_iff.1 h
    have hfree : e.isFree = true := by
      rw [Markup.Element.create_eq_bare he]
      exact Element.bare_free tag
    simp only at h
    split at h
    · obtain ⟨f, hf, h⟩ := bind_ok_iff.1 h
      rw [← pure_ok_iff.1 h]
      exact ⟨Element.setText_free hfree hf, rfl⟩
    · obtain ⟨_, hf, -⟩ := bind_ok_iff.1 h
      cases hf
  · cases h

theorem dropTag_part {v w : Value} {tag : String} (hv : IsPart v) (h : v.dropTag tag = .ok w) : IsPart w := by
  unfold Value.dropTag at h
  split at h
  · rw [← Except.ok.inj h]
    split
    · exact rfl
    · exact hv
  · cases h

theorem run_gentle {o : Observer} {name : String} {fuel : Nat} (ha : isGentleAction (o.action name))
    (extras : List Extra) {v w : Value} {registry kept : Extension.Registry String} (hv : IsPart v)
    (h : Observer.run o.action extras (fuel + 1) name v registry = ⟨w, kept, none⟩) : kept = registry ∧ IsPart w := by
  simp only [Observer.run] at h
  cases hact : o.action name with
  | keep =>
    simp only [hact] at h
    cases h
    exact ⟨rfl, hv⟩
  | drop =>
    simp only [hact] at h
    cases h
    exact ⟨rfl, rfl⟩
  | setAttribute key value =>
    simp only [hact] at h
    exact settle_gentle (fun w hw => setAttribute_part hv hw) h
  | replace tag =>
    simp only [hact] at h
    exact settle_gentle (fun w hw => replace_part hw) h
  | dropTag tag =>
    simp only [hact] at h
    exact settle_gentle (fun w hw => dropTag_part hv hw) h
  | custom f =>
    simp only [hact] at h ha
    exact settle_gentle (fun w hw => ha _ _ _ hv hw) h
  | _ =>
    rw [hact] at ha
    exact absurd ha id

theorem gentleAt_of_actions {o : Observer} {p : Point}
    (h : ∀ e ∈ o.registry.at_ p, isGentleAction (o.action e.handler)) : GentleAt o p := by
  intro e he extras v hv done hfault
  rcases hdone : done with ⟨w, kept, fault⟩
  obtain rfl : fault = none := by rw [← hfault, hdone]
  exact run_gentle (h e he) extras hv hdone

/-- what gentle filters have come to, as long as none has failed -/
def Untouched (o : Observer) (done : Extension.Progress String Value) : Prop :=
  done.fault = none → done.registry = o.registry ∧ IsPart done.value

theorem step_untouched {o : Observer} {p : Point} (h : GentleAt o p) (extras : List Extra)
    {done : Extension.Progress String Value} (hdone : Untouched o done) {e : Extension.Registration String}
    (he : e ∈ o.registry.at_ p) :
    Untouched o (Extension.Progress.step (Observer.run o.action extras Observer.maxNesting) done e) := by
  intro hfault
  cases hd : done.fault with
  | some fault => simp [Extension.Progress.step, hd] at hfault
  | none =>
    obtain ⟨hregistry, hpart⟩ := hdone hd
    simp only [Extension.Progress.step, hd, hregistry] at hfault ⊢
    exact h e he extras done.value hpart hfault

theorem apply_gentle {o : Observer} {p : Point} (h : GentleAt o p) {extras : List Extra} {v : Value} (hv : IsPart v) :
    Untouched o (o.apply p v extras) :=
  List.foldlRecOn (o.registry.at_ p) _ (fun _ => ⟨rfl, hv⟩)
    fun _ hdone _ he => step_untouched h extras hdone he

/-- a part after gentle filters: what is left is sound, and has behind it what it had or nothing -/
theorem filter_part {p : Point} {extras : List Extra} {b : Built} {r : Option Built} (hp : GentleAt s.observer p)
    (hb : b.Sound) (h : Runs (b.filter p extras) s r t) :
    Extends s t ∧ t.observer = s.observer ∧ ∀ b', r = some b' → b'.Sound ∧ (b'.tail = b.tail ∨ b'.tail = []) := by
  obtain ⟨v, u, hfilter, hrest⟩ := runs_bind.1 h
  obtain ⟨hfault, hv, hu⟩ := filter_runs hfilter
  obtain ⟨hregistry, hpart⟩ := apply_gentle (v := .node b.node true) hp ⟨hb.free, hb.shown⟩ hfault
  rw [hv] at hpart
  have hobserver : u.observer = s.observer := by rw [← hu, hregistry]
  have hextends : Extends s u := by
    rw [← hu] at hobserver ⊢
    exact ⟨rfl, rfl, rfl, fun _ => hobserver, List.prefix_rfl, fun _ h => h⟩
  split at hrest
  · rename_i n
    obtain ⟨rfl, rfl⟩ := runs_pure.1 hrest
    refine ⟨hextends, hobserver, ?_⟩
    rintro _ ⟨⟩
    exact ⟨⟨hpart.1, hpart.2, hb.text⟩, .inl rfl⟩
  · rename_i n
    obtain ⟨rfl, rfl⟩ := runs_pure.1 hrest
    refine ⟨hextends, hobserver, ?_⟩
    rintro _ ⟨⟩
    exact ⟨⟨hpart.1, hpart.2, by simp⟩, .inr rfl⟩
  · obtain ⟨rfl, rfl⟩ := runs_pure.1 hrest
    exact ⟨hextends, hobserver, by simp⟩
  · exact absurd hrest runs_throw

/-! ## What became of a part -/

/-- what the filters at a point make of a built part: it is dropped, or shown with its divider -/
inductive Passed (b : Built) (p : Point) (extras : List Extra) (kind : String) (s : State) :
    Option Built → State → Prop where
  | dropped {t : State} : Runs (b.filter p extras) s none t → Passed b p extras kind s none t
  | shown {b' : Built} {d : Node} {t u : State} : Runs (b.filter p extras) s (some b') t →
      Runs (Rendering.divider kind) t d u → Passed b p extras kind s (some b') u

/-- what became of the cover -/
inductive CoverFate (c : Setting) : Option Cover → State → Option Built → State → Prop where
  | absent {s : State} : CoverFate c none s none s
  | built {given : Cover} {b : Built} {r : Option Built} {s t u : State} : Runs (cover c given) s b t →
      Passed b .cover [.item given.toItem] "header-cover" t r u → CoverFate c (some given) s r u

/-- what became of an item: it is blank, or of an unknown kind, or was not built, or the filters have decided -/
inductive Fate [Room] (c : Setting) (i : Item) (s : State) : Option Built → State → Prop where
  | blank {t : State} : i.isBlank = true → Runs (Rendering.note [⟨.debug, s!"Skipping blank {i.tag}"⟩]) s () t →
      Fate c i s none t
  | unknown {kind : String} {t : State} : i.isBlank = false → i = .other kind →
      Runs (Rendering.note [⟨.debug, s!"No AMP builder for {kind}, skipping it"⟩]) s () t → Fate c i s none t
  | unbuilt {t : State} : i.isBlank = false → (∀ kind, i ≠ .other kind) → Runs (item c i) s none t →
      Fate c i s none t
  | built {b : Built} {r : Option Built} {t u : State} : i.isBlank = false → (∀ kind, i ≠ .other kind) →
      Runs (item c i) s (some b) t → Passed b .articleItem [.item i] i.dividerKind t r u → Fate c i s r u

/-- what became of items, one after the other -/
inductive Fates [Room] (c : Setting) : State → List (Item × Option Built) → State → Prop where
  | nil {s : State} : Fates c s [] s
  | cons {i : Item} {r : Option Built} {rest : List (Item × Option Built)} {s t u : State} :
      Fate c i s r t → Fates c t rest u → Fates c s ((i, r) :: rest) u

/-- the part that is left of something, if any -/
def partOf (kind : String) (r : Option Built) : List Part := (r.map fun b => ⟨b, kind⟩).toList

theorem passed_adds {b : Built} {p : Point} {extras : List Extra} {kind : String} {nodes : List Node}
    (hp : GentleAt s.observer p) (hmaps : s.observer.registry.at_ .mapsApiKey = []) (hb : b.Sound)
    (h : Runs (do
      match ← b.filter p extras with
      | none => return []
      | some built => return built.nodes ++ [← Rendering.divider kind]) s nodes t) :
    ∃ r, Passed b p extras kind s r t ∧ Adds s nodes (partOf kind r) t ∧
      ∀ b', r = some b' → b'.tail = b.tail ∨ b'.tail = [] := by
  obtain ⟨r, u, hfilter, hrest⟩ := runs_bind.1 h
  obtain ⟨hextends, -, hr⟩ := filter_part hp hb hfilter
  cases r with
  | none =>
    obtain ⟨rfl, rfl⟩ := runs_pure.1 hrest
    exact ⟨none, .dropped hfilter, .none hextends hmaps, by simp⟩
  | some b' =>
    obtain ⟨d, hdivider, rfl⟩ := runs_map.1 hrest
    obtain ⟨hsound, htail⟩ := hr b' rfl
    refine ⟨some b', .shown hfilter hdivider, .part (.none hextends hmaps) hsound hdivider, ?_⟩
    rintro _ ⟨⟩
    exact htail

/-! ## The header -/

/-- elements with their kinds, as parts of a page -/
def lineParts (lines : List (Element × String)) : List Part := lines.map fun x => ⟨.ofElement x.1, x.2⟩

/-- the line for a text, when there is any -/
def lineOf (tag kind : String) (markup : Option String) : List (String × String) :=
  ((markup.filter fun s => !s.isEmpty).map fun _ => (tag, kind)).toList

/-- the lines of a header behind its cover, each with its tag and its kind -/
def headerLines (h : Header) : List (String × String) :=
  [("div", "header-bar")] ++ lineOf "h2" "header-category" h.kicker ++ lineOf "h1" "header-h1" h.title
    ++ lineOf "h2" "header-subtitle" h.subtitle
    ++ (if (byline h.authors).isEmpty then [] else [("h3", "header-author")])
    ++ (if h.published.isNone then [] else [("h3", "header-date")])

/-- lines as they are asked for: each has the tag that is asked for and bears its kind as its class -/
def Shaped (p : String) (lines : List (Element × String)) (asked : List (String × String)) : Prop :=
  lines.map (fun x => (x.1.tag, x.1.attributes, x.2)) =
    asked.map fun y => (y.1, [⟨"class", some (p ++ y.2)⟩], y.2)

/-- what steps that add lines to a header leave behind -/
structure AddsLines (s : State) (nodes : List Node) (lines : List (Element × String)) (asked : List (String × String))
    (t : State) : Prop where
  adds : Adds s nodes (lineParts lines) t
  shapes : Shaped s.classPrefix lines asked

namespace AddsLines

theorem append {ns ms : List Node} {ls ks : List (Element × String)} {xs ys : List (String × String)}
    (h : AddsLines s ns ls xs t) (k : AddsLines t ms ks ys u) : AddsLines s (ns ++ ms) (ls ++ ks) (xs ++ ys) u where
  adds := by
    rw [lineParts, List.map_append]
    exact h.adds.append k.adds
  shapes := by
    have hlater := k.shapes
    rw [h.adds.classPrefix] at hlater
    unfold Shaped
    rw [List.map_append, List.map_append, h.shapes, hlater]

theorem none (hmaps : s.observer.registry.at_ .mapsApiKey = []) : AddsLines s [] [] [] s :=
  ⟨.none (.refl s) hmaps, rfl⟩

/-- an element of the class of its kind, with its divider -/
theorem line {e : Element} {tag kind : String} {nodes : List Node} (he : e.isFree = true) (htag : e.tag = tag)
    (hclass : e.attributes = [⟨"class", some (s.classPrefix ++ kind)⟩])
    (hmaps : s.observer.registry.at_ .mapsApiKey = []) (h : Runs (withDivider e kind) s nodes t) :
    AddsLines s nodes [(e, kind)] [(tag, kind)] t := by
  obtain ⟨d, hdivider, rfl⟩ := runs_map.1 h
  refine ⟨.part (.none (.refl s) hmaps) (ofElement_sound he) hdivider, ?_⟩
  simp [Shaped, htag, hclass]

end AddsLines

theorem named_free (tag p kind : String) (mark : Option Mark) (hmark : Markup.Mark.isDivider mark = false) :
    (⟨tag, mark, [⟨"class", some (p ++ kind)⟩], []⟩ : Element).isFree = true := by
  simp [Element.isFree_eq, hmark, Node.areFree]

theorem setText_shape {e f : Element} {text : String} (h : e.setText text = .ok f) :
    f.tag = e.tag ∧ f.attributes = e.attributes := by
  obtain ⟨_, -, h⟩ := bind_ok_iff.1 h
  obtain rfl := pure_ok_iff.1 h
  exact ⟨rfl, rfl⟩

theorem barPart_adds {nodes : List Node} (hmaps : s.observer.registry.at_ .mapsApiKey = [])
    (h : Runs barPart s nodes t) : ∃ lines, AddsLines s nodes lines [("div", "header-bar")] t := by
  obtain ⟨e, _, hcreate, hline⟩ := runs_bind.1 h
  obtain ⟨rfl, rfl⟩ := createNamed_runs rfl hcreate
  exact ⟨_, .line (named_free _ _ _ _ rfl) rfl rfl hmaps hline⟩

theorem linePart_adds {tag kind : String} {markup : Option String} {nodes : List Node} (hkind : kind.isEmpty = false)
    (hmaps : s.observer.registry.at_ .mapsApiKey = []) (h : Runs (linePart tag kind markup) s nodes t) :
    ∃ lines, AddsLines s nodes lines (lineOf tag kind markup) t := by
  unfold linePart at h
  unfold lineOf
  cases hmarkup : markup.filter fun s => !s.isEmpty with
  | none =>
    rw [hmarkup] at h
    obtain ⟨rfl, rfl⟩ := runs_pure.1 h
    exact ⟨[], .none hmaps⟩
  | some markup =>
    rw [hmarkup] at h
    obtain ⟨e, _, hcreate, hrest⟩ := runs_bind.1 h
    obtain ⟨rfl, rfl⟩ := createNamed_runs hkind hcreate
    obtain ⟨f, hf, hline⟩ := runs_liftM_bind.1 hrest
    obtain ⟨htag, -, hclass⟩ := Markup.appendMarkup_tag hf
    exact ⟨_, .line (Markup.appendMarkup_free (named_free _ _ _ _ rfl) hf) htag hclass hmaps hline⟩

theorem bylinePart_adds {authors : List Author} {nodes : List Node}
    (hmaps : s.observer.registry.at_ .mapsApiKey = []) (h : Runs (bylinePart authors) s nodes t) :
    ∃ lines, AddsLines s nodes lines (if (byline authors).isEmpty then [] else [("h3", "header-author")]) t := by
  unfold bylinePart at h
  by_cases hauthors : (byline authors).isEmpty = true
  · rw [if_pos hauthors] at h ⊢
    obtain ⟨rfl, rfl⟩ := runs_pure.1 h
    exact ⟨[], .none hmaps⟩
  · rw [if_neg hauthors] at h ⊢
    obtain ⟨e, _, hcreate, hrest⟩ := runs_bind.1 h
    obtain ⟨rfl, rfl⟩ := createNamed_runs rfl hcreate
    obtain ⟨f, hf, hline⟩ := runs_liftM_bind.1 hrest
    obtain ⟨htag, hclass⟩ := setText_shape hf
    exact ⟨_, .line (Element.setText_free (named_free _ _ _ _ rfl) hf) htag hclass hmaps hline⟩

theorem datePart_adds {published : Option Moment} {nodes : List Node}
    (hmaps : s.observer.registry.at_ .mapsApiKey = []) (h : Runs (datePart published) s nodes t) :
    ∃ lines, AddsLines s nodes lines (if published.isNone then [] else [("h3", "header-date")]) t := by
  unfold datePart at h
  by_cases hpublished : published.isNone = true
  · rw [if_pos hpublished] at h ⊢
    obtain ⟨rfl, rfl⟩ := runs_pure.1 h
    exact ⟨[], .none hmaps⟩
  · rw [if_neg hpublished] at h ⊢
    obtain ⟨e, _, hcreate, hline⟩ := runs_bind.1 h
    obtain ⟨rfl, rfl⟩ := createNamed_runs rfl hcreate
    exact ⟨_, .line (named_free _ _ _ (some .dateLine) rfl) rfl rfl hmaps hline⟩

theorem coverPart_adds {given : Option Cover} {nodes : List Node} (hcover : GentleAt s.observer .cover)
    (hmaps : s.observer.registry.at_ .mapsApiKey = []) (h : Runs (coverPart c given) s nodes t) :
    ∃ r, CoverFate c given s r t ∧ Adds s nodes (partOf "header-cover" r) t ∧ ∀ b, r = some b → b.tail = [] := by
  cases given with
  | none =>
    obtain ⟨rfl, rfl⟩ := runs_pure.1 h
    exact ⟨none, .absent, .none (.refl _) hmaps, by simp⟩
  | some given =>
    obtain ⟨b, u, hbuilt, hrest⟩ := runs_bind.1 h
    obtain ⟨hextends, hsingle⟩ := cover_steady c given s b u hbuilt
    have hobserver := hextends.observer hmaps
    rw [← hobserver] at hcover hmaps
    obtain ⟨r, hpassed, hadds, htail⟩ := passed_adds hcover hmaps hsingle.toSound hrest
    refine ⟨r, .built hbuilt hpassed, (Adds.none hextends (hobserver ▸ hmaps)).append hadds, ?_⟩
    intro b' hb'
    rcases htail b' hb' with h | h
    · rw [h, hsingle.alone]
    · exact h

theorem headerParts_adds {h : Header} {nodes : List Node} (hcover : GentleAt s.observer .cover)
    (hmaps : s.observer.registry.at_ .mapsApiKey = []) (hrun : Runs (headerParts c h) s nodes t) :
    ∃ r lines u ns ms, nodes = ns ++ ms ∧ CoverFate c h.cover s r u ∧ (∀ b, r = some b → b.tail = []) ∧
      Adds s ns (partOf "header-cover" r) u ∧ AddsLines u ms lines (headerLines h) t := by
  obtain ⟨coverNodes, u, hrun₀, hrest₀⟩ := runs_bind.1 hrun
  obtain ⟨r, hfate, hadds, htail⟩ := coverPart_adds hcover hmaps hrun₀
  rw [← hadds.observer] at hmaps
  obtain ⟨bar, _, hrun₁, hrest₁⟩ := runs_bind.1 hrest₀
  obtain ⟨ls₁, h₁⟩ := barPart_adds hmaps hrun₁
  rw [← h₁.adds.observer] at hmaps
  obtain ⟨kicker, _, hrun₂, hrest₂⟩ := runs_bind.1 hrest₁
  obtain ⟨ls₂, h₂⟩ := linePart_adds rfl hmaps hrun₂
  rw [← h₂.adds.observer] at hmaps
  obtain ⟨title, _, hrun₃, hrest₃⟩ := runs_bind.1 hrest₂
  obtain ⟨ls₃, h₃⟩ := linePart_adds rfl hmaps hrun₃
  rw [← h₃.adds.observer] at hmaps
  obtain ⟨subtitle, _, hrun₄, hrest₄⟩ := runs_bind.1 hrest₃
  obtain ⟨ls₄, h₄⟩ := linePart_adds rfl hmaps hrun₄
  rw [← h₄.adds.observer] at hmaps
  obtain ⟨authors, _, hrun₅, hrest₅⟩ := runs_bind.1 hrest₄
  obtain ⟨ls₅, h₅⟩ := bylinePart_adds hmaps hrun₅
  rw [← h₅.adds.observer] at hmaps
  obtain ⟨date, _, hrun₆, hend⟩ := runs_bind.1 hrest₅
  obtain ⟨ls₆, h₆⟩ := datePart_adds hmaps hrun₆
  obtain ⟨rfl, rfl⟩ := runs_pure.1 hend
  have hlines := ((((h₁.append h₂).append h₃).append h₄).append h₅).append h₆
  refine ⟨r, _, u, coverNodes, _, ?_, hfate, htail, hadds, hlines⟩
  simp only [List.append_assoc]

/-! ## The content -/

theorem contentPart_adds [Room] {i : Item} {nodes : List Node} (hitem : GentleAt s.observer .articleItem)
    (hmaps : s.observer.registry.at_ .mapsApiKey = []) (h : Runs (contentPart c i) s nodes t) :
    ∃ r, Fate c i s r t ∧ Adds s nodes (partOf i.dividerKind r) t := by
  unfold contentPart at h
  split at h
  · rename_i hblank
    obtain ⟨_, hnote, rfl⟩ := runs_map.1 h
    exact ⟨none, .blank hblank hnote, .none (Rendering.note_steady _ _ _ _ hnote).1 hmaps⟩
  · rename_i hblank
    rw [Bool.not_eq_true] at hblank
    split at h
    · rename_i kind
      obtain ⟨_, hnote, rfl⟩ := runs_map.1 h
      exact ⟨none, .unknown hblank rfl hnote, .none (Rendering.note_steady _ _ _ _ hnote).1 hmaps⟩
    · rename_i hknown
      obtain ⟨r, u, hbuilt, hrest⟩ := runs_bind.1 h
      obtain ⟨hextends, hsound⟩ := item_steady c i s r u hbuilt
      have hobserver := hextends.observer hmaps
      have hadds := Adds.none hextends hmaps
      rw [← hobserver] at hitem hmaps
      cases r with
      | none =>
        obtain ⟨rfl, rfl⟩ := runs_pure.1 hrest
        exact ⟨none, .unbuilt hblank hknown hbuilt, hadds⟩
      | some b =>
        obtain ⟨r, hpassed, hall, -⟩ := passed_adds hitem hmaps (hsound b rfl) hrest
        exact ⟨r, .built hblank hknown hbuilt hpassed, hadds.append hall⟩

theorem contentParts_adds [Room] {items : List Item} {nodes : List Node} (hitem : GentleAt s.observer .articleItem)
    (hmaps : s.observer.registry.at_ .mapsApiKey = []) (h : Runs (contentParts c items) s nodes t) :
    ∃ fates, Fates c s fates t ∧ fates.map Prod.fst = items ∧
      Adds s nodes (fates.flatMap fun x => partOf x.1.dividerKind x.2) t := by
  induction items generalizing s nodes with
  | nil =>
    obtain ⟨rfl, rfl⟩ := runs_pure.1 h
    exact ⟨[], .nil, rfl, .none (.refl _) hmaps⟩
  | cons i items ih =>
    obtain ⟨first, u, hfirst, hrest⟩ := runs_bind.1 h
    obtain ⟨r, hfate, hadds⟩ := contentPart_adds hitem hmaps hfirst
    obtain ⟨others, hothers, rfl⟩ := runs_map.1 hrest
    rw [← hadds.observer] at hitem hmaps
    obtain ⟨fates, hfates, hitems, hall⟩ := ih hitem hmaps hothers
    exact ⟨(i, r) :: fates, .cons hfate hfates, by rw [List.map_cons, hitems], hadds.append hall⟩

end AmpArticle.Page
