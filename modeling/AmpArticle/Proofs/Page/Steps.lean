import AmpArticle.Page.Rendering
import AmpArticle.Proofs.Markup.Starts

/-!
Steps of a conversion that come to a result. A run of a step is taken apart into the runs of its parts; what all parts
keep of the state, the whole step keeps.

Results:
- `runs_bind` and its companions: a run of a step is the runs of what it is made of;
- `Extends`, `Steady`: a part of a page is built without touching the dividers, the class prefix or the registrations,
  and warnings and features are never taken back;
- `create_eq`: a new element is bare but for its attributes;
- `createNamed_runs`, `divider_runs`: the elements that frame a page, exactly.
-/

namespace AmpArticle.Page

open Markup (Element Node Mark)

variable {α β : Type}

/-! ## Runs -/

/-- a step comes to a result and leaves a state behind -/
def Runs (x : Rendering α) (s : State) (a : α) (t : State) : Prop := x.run.run s = (.ok a, t)

section Runs

variable {s t u : State} {a : α} {b : β} {fault : Fault}

theorem runs_pure {a' : α} : Runs (pure a') s a t ↔ a' = a ∧ s = t := by
  constructor
  · intro h
    cases h
    exact ⟨rfl, rfl⟩
  · rintro ⟨rfl, rfl⟩
    rfl

theorem runs_throw : ¬ Runs (throw fault : Rendering α) s a t := by
  intro h
  cases h

theorem runs_get {r : State} : Runs get s r t ↔ s = r ∧ s = t := by
  constructor
  · intro h
    cases h
    exact ⟨rfl, rfl⟩
  · rintro ⟨rfl, rfl⟩
    rfl

theorem runs_modify {f : State → State} {r : PUnit} : Runs (modify f) s r t ↔ f s = t := by
  constructor
  · intro h
    cases h
    rfl
  · rintro rfl
    rfl

theorem runs_set {r : State} {x : PUnit} : Runs (set r) s x t ↔ r = t := runs_modify (f := fun _ => r)

theorem runs_liftM {x : Except Fault α} : Runs (liftM x) s a t ↔ x = .ok a ∧ s = t := by
  constructor
  · intro h
    cases x with
    | error _ => cases h
    | ok _ =>
      cases h
      exact ⟨rfl, rfl⟩
  · rintro ⟨rfl, rfl⟩
    rfl

@[simp] theorem run_pure (a : α) (s : State) : (pure a : Rendering α).run.run s = (.ok a, s) := rfl

@[simp] theorem run_get (s : State) : (get : Rendering State).run.run s = (.ok s, s) := rfl

@[simp] theorem run_modify (f : State → State) (s : State) : (modify f : Rendering PUnit).run.run s = (.ok ⟨⟩, f s) := rfl

@[simp] theorem run_set (s t : State) : (set t : Rendering PUnit).run.run s = (.ok ⟨⟩, t) := rfl

@[simp] theorem run_liftM (x : Except Fault α) (s : State) : (liftM x : Rendering α).run.run s = (x, s) := by
  cases x <;> rfl

theorem run_bind (x : Rendering α) (f : α → Rendering β) (s : State) :
    (x >>= f).run.run s =
      match x.run.run s with
      | (.ok a, t) => (f a).run.run t
      | (.error e, t) => (.error e, t) := by
  show (x.run >>= ExceptT.bindCont f).run s = _
  rw [StateT.run_bind]
  rcases x.run.run s with ⟨_ | _, _⟩ <;> rfl

theorem runs_bind {x : Rendering α} {f : α → Rendering β} :
    Runs (x >>= f) s b u ↔ ∃ a t, Runs x s a t ∧ Runs (f a) t b u := by
  unfold Runs
  rw [run_bind]
  constructor
  · intro h
    rcases hx : x.run.run s with ⟨_ | a, t⟩
    · rw [hx] at h
      cases h
    · rw [hx] at h
      exact ⟨a, t, rfl, h⟩
  · rintro ⟨a, t, hx, h⟩
    rw [hx]
    exact h

/-- a step whose last act is to make its result from that of `x` -/
theorem runs_map {x : Rendering α} {f : α → β} :
    Runs (x >>= fun a => pure (f a)) s b t ↔ ∃ a, Runs x s a t ∧ f a = b := by
  rw [runs_bind]
  constructor
  · rintro ⟨a, _, hx, hend⟩
    obtain ⟨rfl, rfl⟩ := runs_pure.1 hend
    exact ⟨a, hx, rfl⟩
  · rintro ⟨a, hx, rfl⟩
    exact ⟨a, t, hx, runs_pure.2 ⟨rfl, rfl⟩⟩

/-- a step that starts by reading the state -/
theorem runs_get_bind {f : State → Rendering β} : Runs (get >>= f) s b t ↔ Runs (f s) s b t := by
  rw [runs_bind]
  constructor
  · rintro ⟨_, _, hget, h⟩
    obtain ⟨rfl, rfl⟩ := runs_get.1 hget
    exact h
  · intro h
    exact ⟨s, s, runs_get.2 ⟨rfl, rfl⟩, h⟩

/-- a step that starts with what may fail and leaves the state -/
theorem runs_liftM_bind {x : Except Fault α} {f : α → Rendering β} :
    Runs (liftM x >>= f) s b t ↔ ∃ a, x = .ok a ∧ Runs (f a) s b t := by
  rw [runs_bind]
  constructor
  · rintro ⟨a, _, hx, h⟩
    obtain ⟨ha, rfl⟩ := runs_liftM.1 hx
    exact ⟨a, ha, h⟩
  · rintro ⟨a, ha, h⟩
    exact ⟨a, s, runs_liftM.2 ⟨ha, rfl⟩, h⟩

end Runs

/-! ## Steps that only add -/

/-- what no part of a page takes back: names stay as they are, no divider is made, the registrations change only
through filters of a map's key, and warnings and features are kept -/
structure Extends (s t : State) : Prop where
  classPrefix : t.classPrefix = s.classPrefix
  spacing : t.rules.spacing = s.rules.spacing
  dividers : t.dividers = s.dividers
  observer : s.observer.registry.at_ .mapsApiKey = [] → t.observer = s.observer
  warnings : s.warnings <+: t.warnings
  features : s.features ⊆ t.features

namespace Extends

theorem refl (s : State) : Extends s s :=
  ⟨rfl, rfl, rfl, fun _ => rfl, List.prefix_rfl, fun _ h => h⟩

theorem trans {s t u : State} (h : Extends s t) (k : Extends t u) : Extends s u where
  classPrefix := k.classPrefix.trans h.classPrefix
  spacing := k.spacing.trans h.spacing
  dividers := k.dividers.trans h.dividers
  observer hs := by
    have ht := h.observer hs
    rw [k.observer (ht ▸ hs), ht]
  warnings := h.warnings.trans k.warnings
  features := fun _ hf => k.features (h.features hf)

end Extends

/-- a step that only adds, and gives a result with a property -/
def Steady (x : Rendering α) (post : α → Prop) : Prop := ∀ s a t, Runs x s a t → Extends s t ∧ post a

section Steady

variable {x : Rendering α} {f : α → Rendering β} {p : α → Prop} {q : β → Prop}

theorem steady_pure {a : α} (h : p a) : Steady (pure a) p := by
  intro s a' t hrun
  obtain ⟨rfl, rfl⟩ := runs_pure.1 hrun
  exact ⟨.refl _, h⟩

theorem steady_throw {fault : Fault} : Steady (throw fault) p := fun _ _ _ hrun => absurd hrun runs_throw

theorem steady_bind (hx : Steady x p) (hf : ∀ a, p a → Steady (f a) q) : Steady (x >>= f) q := by
  intro s b u hrun
  obtain ⟨a, t, hxa, hfa⟩ := runs_bind.1 hrun
  obtain ⟨hst, ha⟩ := hx s a t hxa
  obtain ⟨htu, hb⟩ := hf a ha t b u hfa
  exact ⟨hst.trans htu, hb⟩

theorem steady_get : Steady get fun _ => True := by
  intro s a t hrun
  obtain ⟨rfl, rfl⟩ := runs_get.1 hrun
  exact ⟨.refl _, trivial⟩

theorem steady_modify {g : State → State} (h : ∀ s, Extends s (g s)) : Steady (modify g) fun _ => True := by
  intro s a t hrun
  obtain rfl := runs_modify.1 hrun
  exact ⟨h s, trivial⟩

theorem steady_liftM {e : Except Fault α} (h : ∀ a, e = .ok a → p a) : Steady (liftM e) p := by
  intro s a t hrun
  obtain ⟨he, rfl⟩ := runs_liftM.1 hrun
  exact ⟨.refl _, h a he⟩

theorem steady_mapM {step : α → Rendering β} (h : ∀ a, Steady (step a) q) (as : List α) :
    Steady (as.mapM step) fun bs => ∀ b ∈ bs, q b := by
  induction as with
  | nil => exact steady_pure (by simp)
  | cons a as ih =>
    rw [List.mapM_cons]
    refine steady_bind (h a) fun b hb => steady_bind ih fun bs hbs => steady_pure ?_
    intro b' hb'
    rcases List.mem_cons.1 hb' with rfl | hb'
    · exact hb
    · exact hbs b' hb'

end Steady

/-- the features when one of them is used -/
def used (f : Feature) (features : List Feature) : List Feature := if f ∈ features then features else features ++ [f]

namespace Rendering

theorem useFeature_run (f : Feature) (s : State) :
    (useFeature f).run.run s = (.ok ⟨⟩, { s with features := used f s.features }) := by
  simp only [used, ← List.contains_iff_mem]
  rfl

theorem note_steady (lines : List Media.LogLine) : Steady (note lines) fun _ => True :=
  steady_modify fun _ => ⟨rfl, rfl, rfl, fun _ => rfl, List.prefix_rfl, fun _ h => h⟩

theorem warn_steady (w : Warning) : Steady (warn w) fun _ => True :=
  steady_modify fun _ => ⟨rfl, rfl, rfl, fun _ => rfl, List.prefix_append _ _, fun _ h => h⟩

theorem warnItem_steady (message : String) (item : Item) (cause : Option Fault) :
    Steady (warnItem message item cause) fun _ => True := warn_steady _

theorem warnText_steady (message text : String) (cause : Option Fault) :
    Steady (warnText message text cause) fun _ => True := warn_steady _

theorem useFeature_steady (f : Feature) : Steady (useFeature f) fun _ => True := by
  refine steady_modify fun s => ⟨rfl, rfl, rfl, fun _ => rfl, List.prefix_rfl, fun g hg => ?_⟩
  show g ∈ (if s.features.contains f then s.features else s.features ++ [f])
  split
  · exact hg
  · exact List.mem_append_left _ hg

theorem declare_steady (selector property value : String) : Steady (declare selector property value) fun _ => True :=
  steady_modify fun _ => ⟨rfl, rfl, rfl, fun _ => rfl, List.prefix_rfl, fun _ h => h⟩

theorem classAttribute_steady (names : Css.ClassNames) : Steady (classAttribute names) fun _ => True := by
  refine steady_bind steady_get fun s _ => ?_
  split
  · exact steady_pure trivial
  · exact steady_throw

theorem uniqueClass_steady (name : String) : Steady (uniqueClass name) fun _ => True := by
  refine steady_bind steady_get fun s _ => steady_bind (steady_modify fun s => ?_) fun _ _ => steady_pure trivial
  exact ⟨rfl, rfl, rfl, fun _ => rfl, List.prefix_rfl, fun _ h => h⟩

theorem dress_steady {e : Element} (names : Option Css.ClassNames) (attributes : List (String × String))
    (he : e.isUnmarked = true) : Steady (dress e names attributes) fun r => r.1.isUnmarked = true := by
  unfold dress
  split
  · exact steady_pure (by rw [Element.setAll_unmarked]; exact he)
  · split
    · refine steady_bind steady_get fun s _ => ?_
      split
      · exact steady_pure (by rw [Element.setAll_unmarked]; exact he)
      · exact steady_pure he
    · exact steady_pure (by rw [Element.setAll_unmarked]; exact he)

theorem create_steady (tag : String) (names : Option Css.ClassNames) (attributes : List (String × String)) :
    Steady (create tag names attributes) fun e => e.isUnmarked = true := by
  refine steady_bind (p := fun e => e.isUnmarked = true) (steady_liftM fun e he => ?_) fun e he =>
    steady_bind (dress_steady names attributes he) fun r hr => ?_
  · rw [Markup.Element.create_eq_bare he]
    exact Element.bare_unmarked tag
  · split
    · exact steady_pure hr
    · exact steady_throw

theorem createNamed_steady (tag name : String) : Steady (createNamed tag name) fun e => e.isUnmarked = true :=
  create_steady tag _ _

theorem withMarkup_steady {e : Element} (markup : String) (he : e.isUnmarked = true) :
    Steady (withMarkup e markup) fun f => f.isUnmarked = true :=
  steady_liftM fun _ hf => Markup.appendMarkup_unmarked he hf

theorem resolve_steady (c : Setting) (url : String) (kind : Media.Kind) : Steady (resolve c url kind) fun _ => True :=
  steady_bind (steady_liftM (p := fun _ => True) fun _ _ => trivial) fun _ _ =>
    steady_bind (note_steady _) fun _ _ => steady_pure trivial

theorem dimensions_steady (c : Setting) (url : String) (kind : Media.Kind) :
    Steady (dimensions c url kind) fun _ => True := by
  refine steady_bind (resolve_steady c url kind) fun size _ => ?_
  split
  · exact steady_bind (warnText_steady _ _ _) fun _ _ => steady_pure trivial
  · exact steady_pure trivial

end Rendering

/-! ## Filters -/

section Filters

variable {p : Extension.Point} {v w : Extension.Value} {extras : List Extension.Extra} {s t : State}

theorem apply_unregistered {o : Extension.Observer} (h : o.registry.at_ p = []) :
    o.apply p v extras = ⟨v, o.registry, none⟩ := by
  simp [Extension.Observer.apply, Extension.Registry.apply, h]

/-- what filters leave of the state: registrations and log may differ -/
theorem filtered_runs {r : Extension.Value × Option Fault} (h : Runs (Rendering.filtered p v extras) s r t) :
    let done := s.observer.apply p v (extras ++ [.conversion s.log])
    (done.value, done.fault) = r ∧
      { s with observer := { s.observer with registry := done.registry }, log := t.log } = t := by
  have hrest := runs_get_bind.1 h
  obtain ⟨_, _, hset, hrest⟩ := runs_bind.1 hrest
  obtain rfl := runs_set.1 hset
  simp only at hrest
  split at hrest
  · obtain ⟨_, _, hnote, hend⟩ := runs_bind.1 hrest
    obtain rfl := runs_modify.1 hnote
    obtain ⟨rfl, rfl⟩ := runs_pure.1 hend
    exact ⟨rfl, rfl⟩
  · obtain ⟨rfl, rfl⟩ := runs_pure.1 hrest
    exact ⟨rfl, rfl⟩

theorem filter_runs (h : Runs (Rendering.filter p v extras) s w t) :
    let done := s.observer.apply p v (extras ++ [.conversion s.log])
    done.fault = none ∧ done.value = w ∧
      { s with observer := { s.observer with registry := done.registry }, log := t.log } = t := by
  obtain ⟨⟨v', fault⟩, _, hrun, hend⟩ := runs_bind.1 h
  obtain ⟨hr, ht⟩ := filtered_runs hrun
  cases fault with
  | some fault => exact absurd hend runs_throw
  | none =>
    obtain ⟨rfl, rfl⟩ := runs_pure.1 hend
    exact ⟨congrArg Prod.snd hr, congrArg Prod.fst hr, ht⟩

/-- without filters a value passes as it is -/
theorem filter_unregistered (hp : s.observer.registry.at_ p = []) (h : Runs (Rendering.filter p v extras) s w t) :
    v = w ∧ { s with log := t.log } = t := by
  obtain ⟨-, hw, ht⟩ := filter_runs h
  rw [apply_unregistered hp] at hw ht
  exact ⟨hw, ht⟩

theorem filter_run (hp : s.observer.registry.at_ p = []) : (Rendering.filter p v extras).run.run s = (.ok v, s) := by
  simp only [Rendering.filter, Rendering.filtered, run_bind, run_get, run_set, apply_unregistered hp, hp, List.length_nil]
  rfl

theorem mapsFilter_steady (v : Extension.Value) (extras : List Extension.Extra) :
    Steady (Rendering.filter .mapsApiKey v extras) fun _ => True := by
  intro s w t hrun
  refine ⟨?_, trivial⟩
  have hobserver (hs : s.observer.registry.at_ .mapsApiKey = []) : t.observer = s.observer := by
    rw [← (filter_unregistered hs hrun).2]
  obtain ⟨-, -, ht⟩ := filter_runs hrun
  rw [← ht] at hobserver ⊢
  exact ⟨rfl, rfl, rfl, hobserver, List.prefix_rfl, fun _ h => h⟩

end Filters

/-! ## Elements that frame a page -/

section Frames

variable {s t : State}

/-- the attributes of a new element: its class, if it is given names, in front of all others -/
def withClass (p : String) (names : Option Css.ClassNames) (attributes : List (String × String)) :
    List (String × String) :=
  ((names.filter Css.ClassNames.isPresent).bind fun names => (names.classAttribute p).toOption).toList.map
    (("class", ·)) ++ attributes

theorem dress_eq {e f : Element} {names : Option Css.ClassNames} {attributes : List (String × String)}
    (h : Runs (Rendering.dress e names attributes) s (f, none) t) :
    e.putAll (withClass s.classPrefix names attributes) = f ∧ s = t := by
  unfold Rendering.dress at h
  unfold withClass
  split at h
  · obtain ⟨hset, rfl⟩ := runs_pure.1 h
    exact ⟨(Element.setAll_putAll hset).symm, rfl⟩
  · rename_i names
    split at h
    · rename_i hpresent
      replace h := runs_get_bind.1 h
      split at h
      · rename_i text hclass
        obtain ⟨hset, rfl⟩ := runs_pure.1 h
        rw [Option.filter_some_pos hpresent, Option.bind_some, hclass]
        exact ⟨(Element.setAll_putAll hset).symm, rfl⟩
      · cases (runs_pure.1 h).1
    · rename_i habsent
      obtain ⟨hset, rfl⟩ := runs_pure.1 h
      rw [Option.filter_some_neg (Bool.not_eq_true _ ▸ habsent)]
      exact ⟨(Element.setAll_putAll hset).symm, rfl⟩

/-- **A new element** is bare but for its attributes, and nothing is noted about it. -/
theorem create_eq {tag : String} {names : Option Css.ClassNames} {attributes : List (String × String)} {e : Element}
    (h : Runs (Rendering.create tag names attributes) s e t) :
    (Element.bare tag).putAll (withClass s.classPrefix names attributes) = e ∧ s = t := by
  obtain ⟨bare, hbare, hrest⟩ := runs_liftM_bind.1 h
  rw [Markup.Element.create_eq_bare hbare] at hrest
  obtain ⟨⟨f, fault⟩, _, hdress, hend⟩ := runs_bind.1 hrest
  cases fault with
  | some fault => exact absurd hend runs_throw
  | none =>
    obtain ⟨rfl, rfl⟩ := runs_pure.1 hend
    exact dress_eq hdress

/-- a new element has its tag, no mark and no children -/
theorem create_new {tag : String} {names : Option Css.ClassNames} {attributes : List (String × String)} {e : Element}
    (h : Runs (Rendering.create tag names attributes) s e t) : e.tag = tag ∧ e.mark = none ∧ e.children = [] := by
  obtain ⟨rfl, -⟩ := create_eq h
  exact Element.putAll_children (Element.bare tag) _

/-- a new element that is given class names bears them as its only attribute -/
theorem create_runs {tag text : String} {names : Css.ClassNames} {e : Element} (hpresent : names.isPresent = true)
    (hclass : names.classAttribute s.classPrefix = .ok text) (h : Runs (Rendering.create tag (some names) []) s e t) :
    ⟨tag, none, [⟨"class", some text⟩], []⟩ = e ∧ s = t := by
  have hnew := create_eq h
  rw [withClass, Option.filter_some_pos hpresent, Option.bind_some, hclass] at hnew
  exact hnew

theorem createNamed_runs {tag name : String} {e : Element} (hname : name.isEmpty = false)
    (h : Runs (Rendering.createNamed tag name) s e t) :
    ⟨tag, none, [⟨"class", some (s.classPrefix ++ name)⟩], []⟩ = e ∧ s = t :=
  create_runs (by simp [Css.ClassNames.isPresent, hname]) (by simp [Css.ClassNames.classAttribute]) h

/-- the classes that a divider behind a part of the given kind has at first -/
def openClasses (p spacing kind : String) : String := p ++ spacing ++ " " ++ p ++ "after-" ++ kind

/-- a divider whose successor is not yet known -/
def openDivider (p spacing : String) (number : Nat) (kind : String) : Node :=
  .element "div" (some (.divider number)) [⟨"class", some (openClasses p spacing kind)⟩] []

/-- **A divider.** It bears the next number, and leaves the name that it gives to the divider before it. -/
theorem divider_runs {kind : String} {n : Node} (h : Runs (Rendering.divider kind) s n t) :
    openDivider s.classPrefix s.rules.spacing s.dividers.length kind = n ∧
      { s with dividers := s.dividers ++ [s.classPrefix ++ "before-" ++ kind] } = t := by
  have hrest := runs_get_bind.1 h
  replace hrest := runs_get_bind.1 hrest
  obtain ⟨e, _, hcreate, hrest⟩ := runs_bind.1 hrest
  obtain ⟨rfl, rfl⟩ := create_runs rfl rfl hcreate
  obtain ⟨before, _, hbefore, hrest⟩ := runs_bind.1 hrest
  have hname := runs_get_bind.1 hbefore
  obtain ⟨rfl, rfl⟩ := runs_pure.1 hname
  obtain ⟨_, _, hmodify, hend⟩ := runs_bind.1 hrest
  obtain rfl := runs_modify.1 hmodify
  obtain ⟨rfl, rfl⟩ := runs_pure.1 hend
  refine ⟨?_, ?_⟩
  · simp [openDivider, openClasses, Element.toNode, Text.joinWith, String.append_assoc]
  · simp [String.append_assoc]

end Frames

end AmpArticle.Page
