import AmpArticle.Proofs.Page.Steps

/-!
Custom elements and features. A builder makes custom elements itself, and markup that it takes over may bring others.
Features are used for those that it makes, and for no others: this is what a step promises (`Weaves`), and promises of
steps one after the other add up.

Results:
- `Keeps`: a step that leaves a part of the state; `Quiet`: a step that uses no feature;
- `Weaves.append`, `Weaves.adopt`: promises of nodes side by side, and of children that are added to an element;
- `weaves_plain`, `weaves_featured`, `weaves_featureless`: the promise of a single new element;
- `weaves_mapM`: that of a step made for each entry of a list.
-/

namespace AmpArticle.Page

open Markup (Element Node Start isCustomTag customsOf)
open Markup.Node (customsIn)

variable {α β : Type} {s t u : State}

/-! ## Steps that leave a part of the state -/

/-- a step that leaves a part of the state as it is -/
def Keeps {γ : Type} (part : State → γ) (x : Rendering α) : Prop := ∀ s a t, Runs x s a t → part t = part s

section Keeps

variable {γ : Type} {part : State → γ} {x : Rendering α} {f : α → Rendering β}

theorem keeps_pure (a : α) : Keeps part (pure a) := by
  intro s a' t hrun
  rw [(runs_pure.1 hrun).2]

theorem keeps_throw (fault : Fault) : Keeps part (throw fault : Rendering α) :=
  fun _ _ _ hrun => absurd hrun runs_throw

theorem keeps_bind (hx : Keeps part x) (hf : ∀ a, Keeps part (f a)) : Keeps part (x >>= f) := by
  intro s b u hrun
  obtain ⟨a, t, hxa, hfa⟩ := runs_bind.1 hrun
  rw [hf a t b u hfa, hx s a t hxa]

theorem keeps_get : Keeps part get := by
  intro s a t hrun
  rw [(runs_get.1 hrun).2]

theorem keeps_modify {g : State → State} (h : ∀ s, part (g s) = part s) : Keeps part (modify g) := by
  intro s a t hrun
  rw [← runs_modify.1 hrun, h]

theorem keeps_liftM (e : Except Fault α) : Keeps part (liftM e) := by
  intro s a t hrun
  rw [(runs_liftM.1 hrun).2]

theorem keeps_mapM {step : α → Rendering β} (h : ∀ a, Keeps part (step a)) (as : List α) :
    Keeps part (as.mapM step) := by
  induction as with
  | nil => exact keeps_pure _
  | cons a as ih =>
    rw [List.mapM_cons]
    exact keeps_bind (h a) fun _ => keeps_bind ih fun _ => keeps_pure _

end Keeps

/-- a step that leaves the used features as they are -/
def Quiet (x : Rendering α) : Prop := ∀ s a t, Runs x s a t → t.features = s.features

namespace Rendering

theorem note_quiet (lines : List Media.LogLine) : Quiet (note lines) := keeps_modify fun _ => rfl

theorem warn_quiet (w : Warning) : Quiet (warn w) := keeps_modify fun _ => rfl

theorem warnItem_quiet (message : String) (item : Item) (cause : Option Fault) : Quiet (warnItem message item cause) :=
  warn_quiet _

theorem warnText_quiet (message text : String) (cause : Option Fault) : Quiet (warnText message text cause) :=
  warn_quiet _

theorem declare_quiet (selector property value : String) : Quiet (declare selector property value) :=
  keeps_modify fun _ => rfl

theorem classAttribute_quiet (names : Css.ClassNames) : Quiet (classAttribute names) := by
  refine keeps_bind keeps_get fun s => ?_
  split
  · exact keeps_pure _
  · exact keeps_throw _

theorem uniqueClass_quiet (name : String) : Quiet (uniqueClass name) :=
  keeps_bind keeps_get fun _ => keeps_bind (keeps_modify fun _ => rfl) fun _ => keeps_pure _

theorem create_keeps {γ : Type} {part : State → γ} (tag : String) (names : Option Css.ClassNames)
    (attributes : List (String × String)) : Keeps part (create tag names attributes) := by
  intro s e t hrun
  rw [(create_eq hrun).2]

theorem create_quiet (tag : String) (names : Option Css.ClassNames) (attributes : List (String × String)) :
    Quiet (create tag names attributes) := create_keeps tag names attributes

section Sizes

variable {γ : Type} {part : State → γ}

/-- looking a size up leaves all but the log -/
theorem resolve_keeps (h : ∀ s log, part { s with log := log } = part s) (c : Setting) (url : String)
    (kind : Media.Kind) : Keeps part (resolve c url kind) :=
  keeps_bind (keeps_liftM _) fun _ => keeps_bind (keeps_modify fun s => h s _) fun _ => keeps_pure _

/-- taking a size leaves all but the warnings and the log -/
theorem dimensions_keeps (h : ∀ s warnings log, part { s with warnings := warnings, log := log } = part s) (c : Setting)
    (url : String) (kind : Media.Kind) : Keeps part (dimensions c url kind) := by
  refine keeps_bind (resolve_keeps (fun s log => h s s.warnings log) c url kind) fun size => ?_
  split
  · exact keeps_bind (keeps_modify fun s => h s _ _) fun _ => keeps_pure _
  · exact keeps_pure _

end Sizes

theorem resolve_quiet (c : Setting) (url : String) (kind : Media.Kind) : Quiet (resolve c url kind) :=
  resolve_keeps (fun _ _ => rfl) c url kind

theorem dimensions_quiet (c : Setting) (url : String) (kind : Media.Kind) : Quiet (dimensions c url kind) :=
  dimensions_keeps (fun _ _ _ => rfl) c url kind

theorem filter_quiet (p : Extension.Point) (v : Extension.Value) (extras : List Extension.Extra) :
    Quiet (filter p v extras) := by
  intro s w t hrun
  rw [← (filter_runs hrun).2.2]

theorem divider_quiet (kind : String) : Quiet (divider kind) := by
  intro s n t hrun
  rw [← (divider_runs hrun).2]

end Rendering

theorem builtFilter_quiet (b : Built) (p : Extension.Point) (extras : List Extension.Extra) :
    Quiet (b.filter p extras) := by
  refine keeps_bind (Rendering.filter_quiet _ _ _) fun v => ?_
  split
  · exact keeps_pure _
  · exact keeps_pure _
  · exact keeps_pure _
  · exact keeps_throw _

/-! ## Promises -/

theorem Feature.tag_injective : Function.Injective Feature.tag := by
  intro f g h
  cases f <;> cases g <;> first | rfl | exact absurd h (by decide)

theorem Feature.isCustomTag_tag (f : Feature) : isCustomTag f.tag = true := by cases f <;> decide

theorem mem_used {f g : Feature} {features : List Feature} : f ∈ used g features ↔ f ∈ features ∨ f = g := by
  unfold used
  split
  · rename_i hg
    exact ⟨.inl, fun h => h.elim id fun hfg => hfg ▸ hg⟩
  · rw [List.mem_append, List.mem_singleton]

theorem useFeature_features {f : Feature} {r : Unit} (h : Runs (Rendering.useFeature f) s r t) :
    t.features = used f s.features := by
  have hrun := h.symm.trans (Rendering.useFeature_run f s)
  rw [(Prod.mk.inj hrun).2]

/-- what steps from `s` to `t` promise of the nodes that they make: the custom elements in them are `own`, which are
new, and those that the markup brings; and the features used in addition are those of `own` -/
structure Weaves (s : State) (nodes : List Node) (own : List Start) (markups : List String) (t : State) : Prop where
  customs : (customsIn nodes).Perm (own ++ markups.flatMap customsOf)
  features : ∀ f : Feature, f ∈ t.features ↔ f ∈ s.features ∨ f.tag ∈ own.map Start.tag

section Weaves

variable {ns ms : List Node} {own own' : List Start} {texts texts' : List String} {e : Element}

theorem weaves_none (h : t.features = s.features) : Weaves s [] [] [] t :=
  ⟨by simp, fun f => by simp [h]⟩

namespace Weaves

/-- steps that use no feature, before and after -/
theorem between {s' t' : State} (h : Weaves s ns own texts t) (hs : s.features = s'.features)
    (ht : t'.features = t.features) : Weaves s' ns own texts t' :=
  ⟨h.customs, fun f => by rw [ht, h.features, hs]⟩

theorem behind (h : Weaves s ns own texts t) (ht : u.features = t.features) : Weaves s ns own texts u :=
  h.between rfl ht

theorem before (hs : t.features = s.features) (h : Weaves t ns own texts u) : Weaves s ns own texts u :=
  h.between hs rfl

theorem perm (h : Weaves s ns own texts t) (hcustoms : (customsIn ms).Perm (customsIn ns)) :
    Weaves s ms own texts t :=
  ⟨hcustoms.trans h.customs, h.features⟩

theorem reorder (h : Weaves s ns own texts t) (hown : own.Perm own') : Weaves s ns own' texts t :=
  ⟨h.customs.trans (hown.append_right _), fun f => by rw [h.features, (hown.map Start.tag).mem_iff]⟩

/-- **Nodes side by side.** -/
theorem append (h : Weaves s ns own texts t) (k : Weaves t ms own' texts' u) :
    Weaves s (ns ++ ms) (own ++ own') (texts ++ texts') u where
  customs := by
    rw [Markup.Node.customsIn_append, List.flatMap_append]
    refine (h.customs.append k.customs).trans ?_
    -- what is new and what markup brings change places in the middle
    have hmiddle : (texts.flatMap customsOf ++ own').Perm (own' ++ texts.flatMap customsOf) := List.perm_append_comm
    simpa only [List.append_assoc] using (hmiddle.append_right _).append_left own
  features f := by
    rw [k.features, h.features, List.map_append, List.mem_append, or_assoc]

/-- **Children that are added to an element.** -/
theorem adopt (h : Weaves s [e.toNode] own texts t) (k : Weaves t ns own' texts' u) :
    Weaves s [(e.append ns).toNode] (own ++ own') (texts ++ texts') u :=
  (h.append k).perm (by rw [Markup.Node.customsIn_adopt, Markup.Node.customsIn_append])

/-- markup that is added to an element -/
theorem markup {f : Element} {text : String} (h : Weaves s [e.toNode] own texts t)
    (hrun : Runs (Rendering.withMarkup e text) t f u) : Weaves s [f.toNode] own (texts ++ [text]) u := by
  obtain ⟨hf, rfl⟩ := runs_liftM.1 hrun
  have htaken : Weaves t (Markup.taken text) [] [text] t := ⟨by simp [customsOf], fun f => by simp⟩
  rw [Markup.appendMarkup_eq hf]
  simpa only [List.append_nil] using h.adopt htaken

end Weaves

/-- a new element that is not custom -/
theorem weaves_plain {tag : String} {names : Option Css.ClassNames} {attributes : List (String × String)}
    (htag : isCustomTag tag = false) (h : Runs (Rendering.create tag names attributes) s e t) :
    Weaves s [e.toNode] [] [] t := by
  obtain ⟨hnew, -, hchildren⟩ := create_new h
  obtain ⟨-, rfl⟩ := create_eq h
  have hcustoms : customsIn [e.toNode] = [] := by
    rw [Markup.Node.customsIn_frame (by rw [hnew]; exact htag), hchildren, Markup.Node.customsIn_nil]
  exact ⟨by simp [hcustoms], fun f => by simp⟩

theorem customsIn_single (hcustom : isCustomTag e.tag = true) (hchildren : e.children = []) :
    customsIn [e.toNode] = [e.start] := by
  rw [Markup.Node.customsIn_toNode, hcustom, hchildren]
  rfl

/-- a custom element without children, for which its feature is used -/
theorem weaves_featured {f : Feature} (htag : e.tag = f.tag) (hchildren : e.children = [])
    (hfeatures : t.features = used f s.features) : Weaves s [e.toNode] [e.start] [] t where
  customs := by
    rw [customsIn_single (htag ▸ f.isCustomTag_tag) hchildren]
    simp
  features g := by
    rw [hfeatures, mem_used, List.map_singleton, List.mem_singleton, Element.start, htag, Feature.tag_injective.eq_iff]

/-- a custom element without children that needs no feature -/
theorem weaves_featureless (hcustom : isCustomTag e.tag = true) (hno : ∀ f : Feature, f.tag ≠ e.tag)
    (hchildren : e.children = []) (hfeatures : t.features = s.features) : Weaves s [e.toNode] [e.start] [] t where
  customs := by
    rw [customsIn_single hcustom hchildren]
    simp
  features g := by
    rw [hfeatures, List.map_singleton, List.mem_singleton, Element.start, or_iff_left (hno g)]

/-- **A step made for each entry of a list.** -/
theorem weaves_mapM {step : α → Rendering β} {nodes : β → List Node} {own : β → List Start} {texts : α → List String}
    (h : ∀ a s b t, Runs (step a) s b t → Weaves s (nodes b) (own b) (texts a) t) {as : List α} {bs : List β}
    (hrun : Runs (as.mapM step) s bs t) : Weaves s (bs.flatMap nodes) (bs.flatMap own) (as.flatMap texts) t := by
  induction as generalizing s bs with
  | nil =>
    obtain ⟨rfl, rfl⟩ := runs_pure.1 hrun
    exact weaves_none rfl
  | cons a as ih =>
    rw [List.mapM_cons] at hrun
    obtain ⟨b, _, hb, hrest⟩ := runs_bind.1 hrun
    obtain ⟨bs, hbs, rfl⟩ := runs_map.1 hrest
    simpa only [List.flatMap_cons] using (h a _ b _ hb).append (ih hbs)

end Weaves

end AmpArticle.Page
