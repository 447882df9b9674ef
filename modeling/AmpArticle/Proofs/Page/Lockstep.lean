import AmpArticle.Proofs.Css.Templates
import AmpArticle.Proofs.Page.Alike

/-!
Two conversions that differ in the class prefix alone, side by side. Their states agree in all that the prefix has no
part in, and a step takes both to states that agree again whenever it comes to a result in both.

Results:
- `Twin`: the states of two such conversions;
- `InStep`: two steps that lead from such states to such states, and to results that belong together;
- `inStep_bind` and its companions: steps one after the other;
- `create_inStep`, `divider_inStep`, `builtFilter_inStep`: the steps that builders are made of.
-/

namespace AmpArticle.Page

open Markup (Element Node)
open Extension (Observer)

/-! ## States -/

/-- states of two conversions with different prefixes that came the same way; there are no filters -/
structure Twin (p q : String) (s t : State) : Prop where
  left : s.classPrefix = p
  right : t.classPrefix = q
  rules : Css.RuleSet.Twins p q s.rules t.rules
  warnings : t.warnings = s.warnings
  features : t.features = s.features
  observer : t.observer = s.observer
  unfiltered : Unfiltered s.observer
  dividers : DividersAlike p q s t
  counts : t.classCounts = s.classCounts
  log : t.log = s.log

theorem twin_start (p q : String) {o : Observer} (ho : Unfiltered o) : Twin p q (State.start p o) (State.start q o) :=
  ⟨rfl, rfl, .empty p q, rfl, rfl, rfl, ho, .nil, rfl, rfl⟩

theorem Twin.unfiltered' {p q : String} {s t : State} (h : Twin p q s t) : Unfiltered t.observer :=
  h.observer ▸ h.unfiltered

/-! ## Steps -/

variable {α β γ δ : Type} {p q : String}

/-- two steps in lockstep: when both come to a result, the states are twins again and `post` relates the results -/
def InStep (p q : String) (x : Rendering α) (y : Rendering β) (post : α → β → Prop) : Prop :=
  ∀ s t a b s' t', Twin p q s t → Runs x s a s' → Runs y t b t' → Twin p q s' t' ∧ post a b

section Steps

variable {x : Rendering α} {y : Rendering β} {f : α → Rendering γ} {g : β → Rendering δ} {R S : α → β → Prop}
  {T : γ → δ → Prop}

theorem inStep_pure {a : α} {b : β} (h : R a b) : InStep p q (pure a) (pure b) R := by
  intro s t a' b' s' t' htwin hx hy
  obtain ⟨rfl, rfl⟩ := runs_pure.1 hx
  obtain ⟨rfl, rfl⟩ := runs_pure.1 hy
  exact ⟨htwin, h⟩

theorem inStep_throw {fault : Fault} : InStep p q (throw fault) y R := fun _ _ _ _ _ _ _ hx _ => absurd hx runs_throw

theorem inStep_bind (hx : InStep p q x y R) (hf : ∀ a b, R a b → InStep p q (f a) (g b) T) :
    InStep p q (x >>= f) (y >>= g) T := by
  intro s t c d s' t' htwin hrun hrun'
  obtain ⟨a, u, hxa, hfa⟩ := runs_bind.1 hrun
  obtain ⟨b, v, hyb, hgb⟩ := runs_bind.1 hrun'
  obtain ⟨htwin', hab⟩ := hx _ _ _ _ _ _ htwin hxa hyb
  exact hf a b hab _ _ _ _ _ _ htwin' hfa hgb

theorem inStep_mono (hx : InStep p q x y R) (h : ∀ a b, R a b → S a b) : InStep p q x y S := by
  intro s t a b s' t' htwin hrun hrun'
  obtain ⟨htwin', hab⟩ := hx _ _ _ _ _ _ htwin hrun hrun'
  exact ⟨htwin', h a b hab⟩

theorem inStep_get : InStep p q get get (Twin p q) := by
  intro s t a b s' t' htwin hx hy
  obtain ⟨rfl, rfl⟩ := runs_get.1 hx
  obtain ⟨rfl, rfl⟩ := runs_get.1 hy
  exact ⟨htwin, htwin⟩

theorem inStep_modify {m m' : State → State} (h : ∀ s t, Twin p q s t → Twin p q (m s) (m' t)) :
    InStep p q (modify m) (modify m') fun _ _ => True := by
  intro s t a b s' t' htwin hx hy
  obtain rfl := runs_modify.1 hx
  obtain rfl := runs_modify.1 hy
  exact ⟨h s t htwin, trivial⟩

theorem inStep_liftM {r : Except Fault α} {r' : Except Fault β} (h : ∀ a b, r = .ok a → r' = .ok b → R a b) :
    InStep p q (liftM r) (liftM r') R := by
  intro s t a b s' t' htwin hx hy
  obtain ⟨ha, rfl⟩ := runs_liftM.1 hx
  obtain ⟨hb, rfl⟩ := runs_liftM.1 hy
  exact ⟨htwin, h a b ha hb⟩

/-- what does not look at the state has one result -/
theorem inStep_same (r : Except Fault α) : InStep p q (liftM r) (liftM r) Eq := by
  refine inStep_liftM fun a b ha hb => ?_
  rw [ha] at hb
  exact Except.ok.inj hb

theorem inStep_mapM {ι : Type} {step : ι → Rendering α} {step' : ι → Rendering β} {is : List ι}
    (h : ∀ i ∈ is, InStep p q (step i) (step' i) R) : InStep p q (is.mapM step) (is.mapM step') (List.Forall₂ R) := by
  induction is with
  | nil => exact inStep_pure .nil
  | cons i is ih =>
    obtain ⟨hi, his⟩ := List.forall_mem_cons.1 h
    rw [List.mapM_cons, List.mapM_cons]
    refine inStep_bind hi fun a b hab => inStep_bind (ih his) fun as bs hall => ?_
    exact inStep_pure (.cons hab hall)

end Steps

/-! ## Single steps -/

namespace Rendering

theorem note_inStep (lines : List Media.LogLine) : InStep p q (note lines) (note lines) fun _ _ => True :=
  inStep_modify fun _ _ h =>
    ⟨h.left, h.right, h.rules, h.warnings, h.features, h.observer, h.unfiltered, h.dividers, h.counts, by rw [h.log]⟩

theorem warn_inStep (w : Warning) : InStep p q (warn w) (warn w) fun _ _ => True :=
  inStep_modify fun _ _ h =>
    ⟨h.left, h.right, h.rules, by rw [h.warnings], h.features, h.observer, h.unfiltered, h.dividers, h.counts,
      by rw [h.log]⟩

theorem warnItem_inStep (message : String) (item : Item) (cause : Option Fault) :
    InStep p q (warnItem message item cause) (warnItem message item cause) fun _ _ => True := warn_inStep _

theorem warnText_inStep (message text : String) (cause : Option Fault) :
    InStep p q (warnText message text cause) (warnText message text cause) fun _ _ => True := warn_inStep _

theorem useFeature_inStep (f : Feature) : InStep p q (useFeature f) (useFeature f) fun _ _ => True :=
  inStep_modify fun _ _ h =>
    ⟨h.left, h.right, h.rules, h.warnings, by rw [h.features], h.observer, h.unfiltered, h.dividers, h.counts, h.log⟩

/-- a declaration on a template -/
theorem declare_inStep {t : Css.Template} (ht : Css.IsTemplate t) (property value : String) :
    InStep p q (declare (t.fill p) property value) (declare (t.fill q) property value) fun _ _ => True :=
  inStep_modify fun _ _ h =>
    ⟨h.left, h.right, h.rules.set ht property value, h.warnings, h.features, h.observer, h.unfiltered, h.dividers,
      h.counts, h.log⟩

theorem classAttribute_inStep (name : String) :
    InStep p q (classAttribute (.name name)) (classAttribute (.name name)) fun a b => a = p ++ name ∧ b = q ++ name := by
  refine inStep_bind inStep_get fun s t htwin => ?_
  exact inStep_pure ⟨by rw [htwin.left], by rw [htwin.right]⟩

/-- both conversions count alike -/
theorem uniqueClass_inStep (name : String) : InStep p q (uniqueClass name) (uniqueClass name)
    fun a b => a = b ∧ ∃ number : Nat, a = name ++ "-" ++ toString number := by
  refine inStep_bind inStep_get fun s t htwin => inStep_bind (inStep_modify fun s' t' h => ?_) fun _ _ _ => ?_
  · exact ⟨h.left, h.right, h.rules, h.warnings, h.features, h.observer, h.unfiltered, h.dividers,
      by rw [h.counts, htwin.counts], h.log⟩
  · refine inStep_pure ⟨by rw [htwin.counts], _, rfl⟩

theorem resolve_inStep (c : Setting) (url : String) (kind : Media.Kind) :
    InStep p q (resolve c url kind) (resolve c url kind) Eq := by
  refine inStep_bind (inStep_same _) ?_
  rintro found _ rfl
  exact inStep_bind (note_inStep _) fun _ _ _ => inStep_pure rfl

theorem dimensions_inStep (c : Setting) (url : String) (kind : Media.Kind) :
    InStep p q (dimensions c url kind) (dimensions c url kind) Eq := by
  refine inStep_bind (resolve_inStep c url kind) ?_
  rintro size _ rfl
  split
  · exact inStep_bind (warnText_inStep _ _ _) fun _ _ _ => inStep_pure rfl
  · exact inStep_pure rfl

/-- values pass a point as they are -/
theorem filter_inStep (point : Extension.Point) (v w : Extension.Value) (extras : List Extension.Extra) :
    InStep p q (filter point v extras) (filter point w extras) fun a b => a = v ∧ b = w := by
  intro s t a b s' t' htwin hx hy
  obtain ⟨ha, rfl⟩ := Prod.mk.inj (hx.symm.trans (filter_run (htwin.unfiltered point)))
  obtain ⟨hb, rfl⟩ := Prod.mk.inj (hy.symm.trans (filter_run (htwin.unfiltered' point)))
  exact ⟨htwin, Except.ok.inj ha, Except.ok.inj hb⟩

/-- **New elements** are made alike, with a class for each of the names that they are given. -/
theorem create_inStep (taken : Node → Prop) (tag : String) {given : Css.ClassNames} {names : List String} (hgiven : IsNames given names)
    {attributes : List (String × String)} (hnames : ∀ a ∈ attributes, a.1 ≠ "class") :
    InStep p q (create tag (some given) attributes) (create tag (some given) attributes) (Made taken p q) := by
  intro s t e e' s' t' htwin hx hy
  obtain ⟨rfl, rfl⟩ := create_eq hx
  obtain ⟨rfl, rfl⟩ := create_eq hy
  rw [htwin.left, htwin.right]
  exact ⟨htwin, .new tag hgiven hnames⟩

theorem createNamed_inStep (taken : Node → Prop) (tag : String) {name : String} (hname : name.isEmpty = false) :
    InStep p q (createNamed tag name) (createNamed tag name) (Made taken p q) :=
  create_inStep taken tag (isNames_name hname) (by simp)

/-- without classes there is one new element for both -/
theorem createPlain_same (tag : String) (attributes : List (String × String)) :
    InStep p q (create tag none attributes) (create tag none attributes)
      fun e e' => (Element.bare tag).putAll attributes = e ∧ e = e' := by
  intro s t e e' s' t' htwin hx hy
  obtain ⟨rfl, rfl⟩ := create_eq hx
  obtain ⟨rfl, rfl⟩ := create_eq hy
  exact ⟨htwin, rfl, rfl⟩

theorem createPlain_inStep (taken : Node → Prop) (tag : String) {attributes : List (String × String)}
    (hnames : ∀ a ∈ attributes, a.1 ≠ "class") :
    InStep p q (create tag none attributes) (create tag none attributes) (Made taken p q) := by
  refine inStep_mono (createPlain_same tag attributes) ?_
  rintro e _ ⟨rfl, rfl⟩
  exact (Made.bare tag).putAll hnames

theorem withMarkup_inStep {taken : Node → Prop} {e e' : Element} {markup : String} (h : Made taken p q e e')
    (hmarkup : Brings taken [markup]) :
    InStep p q (withMarkup e markup) (withMarkup e' markup) (Made taken p q) := by
  refine inStep_liftM fun f f' hf hf' => ?_
  rw [Markup.appendMarkup_eq hf, Markup.appendMarkup_eq hf']
  exact h.markup hmarkup

/-- **Dividers** bear the same number, and leave the same name behind the prefixes to the dividers before them. -/
theorem divider_inStep (taken : Node → Prop) (kind : String) :
    InStep p q (divider kind) (divider kind) (Alike taken p q) := by
  intro s t n n' s' t' htwin hx hy
  obtain ⟨rfl, rfl⟩ := divider_runs hx
  obtain ⟨rfl, rfl⟩ := divider_runs hy
  have hname : (∃ name, p ++ "before-" ++ kind = p ++ name ∧ q ++ "before-" ++ kind = q ++ name) :=
    ⟨"before-" ++ kind, String.append_assoc .., String.append_assoc ..⟩
  refine ⟨⟨htwin.left, htwin.right, htwin.rules, htwin.warnings, htwin.features, htwin.observer, htwin.unfiltered, ?_,
    htwin.counts, htwin.log⟩, ?_⟩
  · rw [htwin.left, htwin.right]
    exact List.rel_append htwin.dividers (.cons hname .nil)
  · have hopen (r spacing : String) (number : Nat) : openDivider r spacing number kind =
        .element "div" (some (.divider number)) (classes r [spacing, "after-" ++ kind] ++ []) [] := by
      simp [openDivider, openClasses, classes, Text.joinWith, String.append_assoc]
    rw [htwin.left, htwin.right, htwin.rules.spacing, ← htwin.dividers.length_eq, hopen, hopen]
    exact .element (by decide) (fun _ => List.cons_ne_nil _ _) .nil

end Rendering

/-! ## Parts of a page -/

/-- two parts that are alike, with the text behind them -/
def BuiltAlike (taken : Node → Prop) (p q : String) (b b' : Built) : Prop := AllAlike taken p q b.nodes b'.nodes

/-- two parts that are alike, or none -/
abbrev PartAlike (taken : Node → Prop) (p q : String) : Option Built → Option Built → Prop :=
  Option.Rel (BuiltAlike taken p q)

section Parts

variable {taken : Node → Prop} {b b' : Built}

theorem Made.built {e e' : Element} (h : Made taken p q e e') : BuiltAlike taken p q (.ofElement e) (.ofElement e') :=
  .cons h.alike .nil

theorem PartAlike.nodes {r r' : Option Built} (h : PartAlike taken p q r r') :
    AllAlike taken p q (partNodes r) (partNodes r') := by
  cases h with
  | none => exact .nil
  | some h => exact h

/-- parts pass a point as they are -/
theorem builtFilter_inStep (point : Extension.Point) (extras : List Extension.Extra) (h : BuiltAlike taken p q b b') :
    InStep p q (b.filter point extras) (b'.filter point extras) (PartAlike taken p q) := by
  refine inStep_bind (Rendering.filter_inStep _ _ _ _) ?_
  rintro _ _ ⟨rfl, rfl⟩
  exact inStep_pure (.some h)

end Parts

end AmpArticle.Page
