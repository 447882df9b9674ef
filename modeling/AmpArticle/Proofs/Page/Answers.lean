import AmpArticle.Proofs.Markup.Allowed
import AmpArticle.Proofs.Page.Weaving

/-!
What steps answer. Most builders look at nothing of the state but the class prefix: with it and with what they are given
it is settled whether they come to a result, and to which one (`Answers`). Steps one after the other answer what they
answer in turn.

Results:
- `create_run`: a new element is made just when its class and its attributes may stand in a document;
- `answers_bind` and its companions: what steps answer that are made of others;
- `create_answers`: what a new element is.
-/

namespace AmpArticle.Page

open Markup (Element Node isAllowedText)

variable {α β : Type} {s t : State}

/-! ## New elements -/

/-- attributes with names that can always be set -/
def ArePlain (attributes : List (String × String)) : Prop := ∀ a ∈ attributes, Element.IsPlainName a.1

theorem plain_nil : ArePlain [] := by
  rintro a ⟨⟩

theorem arePlain_of_names {attributes : List (String × String)} {names : List String}
    (hnames : attributes.map Prod.fst = names)
    (h : ∀ name ∈ names, isAllowedText name = true ∧ Markup.isName name = true) : ArePlain attributes := by
  intro a ha
  obtain ⟨hallowed, hname⟩ := h a.1 (hnames ▸ List.mem_map_of_mem ha)
  exact ⟨hallowed, hname⟩

/-- whether the values of attributes may stand in a document -/
def areAllowed (attributes : List (String × String)) : Bool := attributes.all fun a => isAllowedText a.2

theorem setAll_allowed {e : Element} {attributes : List (String × String)} (hplain : ArePlain attributes)
    (h : areAllowed attributes = true) : e.setAll attributes = (e.putAll attributes, none) :=
  Element.setAll_eq fun a ha => ⟨hplain a ha, List.all_eq_true.1 h a ha⟩

theorem setAll_forbidden {e : Element} {attributes : List (String × String)} (hplain : ArePlain attributes)
    (h : areAllowed attributes = false) : ∃ f, e.setAll attributes = (f, some .forbiddenCharacter) := by
  induction attributes generalizing e with
  | nil => cases h
  | cons a rest ih =>
    obtain ⟨name, value⟩ := a
    rw [Element.setAll, Element.set_eq (hplain _ List.mem_cons_self)]
    by_cases hvalue : isAllowedText value = true
    · rw [if_pos hvalue]
      refine ih (fun b hb => hplain b (List.mem_cons_of_mem _ hb)) ?_
      simpa [areAllowed, hvalue] using h
    · rw [if_neg hvalue]
      exact ⟨e, rfl⟩

/-- class names that make a class attribute, whatever the prefix is -/
def AreReadable (names : Option Css.ClassNames) : Prop :=
  ∀ n ∈ names, ∀ p, ∃ text, n.classAttribute p = .ok text

theorem readable_name (name : String) : AreReadable (some (.name name)) := by
  rintro n hn p
  cases hn
  exact ⟨p ++ name, rfl⟩

theorem readable_none : AreReadable none := by
  rintro n ⟨⟩

theorem withClass_name {name : String} (hname : name.isEmpty = false) (p : String)
    (attributes : List (String × String)) :
    withClass p (some (.name name)) attributes = ("class", p ++ name) :: attributes := by
  simp [withClass, Css.ClassNames.isPresent, hname, Css.ClassNames.classAttribute, Option.filter, Except.toOption]

section Created

variable {tag : String} {names : Option Css.ClassNames} {attributes : List (String × String)}

theorem withClass_plain (hplain : ArePlain attributes) (p : String) : ArePlain (withClass p names attributes) := by
  intro a ha
  rcases List.mem_append.1 ha with hclass | hgiven
  · obtain ⟨text, -, rfl⟩ := List.mem_map.1 hclass
    exact (⟨by decide, by decide⟩ : Element.IsPlainName "class")
  · exact hplain a hgiven

/-- the class and the other attributes are set in one go -/
theorem dress_run (e : Element) (hnames : AreReadable names) : (Rendering.dress e names attributes).run.run s =
    (.ok (e.setAll (withClass s.classPrefix names attributes)), s) := by
  unfold Rendering.dress withClass
  cases names with
  | none => rfl
  | some names =>
    obtain ⟨text, htext⟩ := hnames names rfl s.classPrefix
    dsimp only
    split_ifs with hpresent
    · rw [run_bind, run_get, Option.filter_some_pos hpresent, Option.bind_some]
      dsimp only
      rw [htext]
      rfl
    · rw [Option.filter_some_neg (Bool.not_eq_true _ ▸ hpresent)]
      rfl

/-- **A new element** is made just when its class and its other attributes may stand in a document. -/
theorem create_run (htag : Element.create tag = .ok (Element.bare tag)) (hnames : AreReadable names)
    (hplain : ArePlain attributes) :
    (Rendering.create tag names attributes).run.run s =
      (if areAllowed (withClass s.classPrefix names attributes) then
        .ok ((Element.bare tag).putAll (withClass s.classPrefix names attributes))
      else .error .forbiddenCharacter, s) := by
  unfold Rendering.create
  rw [run_bind, htag, run_liftM]
  dsimp only
  rw [run_bind, dress_run _ hnames]
  by_cases hallowed : areAllowed (withClass s.classPrefix names attributes) = true
  · rw [setAll_allowed (withClass_plain hplain _) hallowed, if_pos hallowed]
    rfl
  · obtain ⟨f, hf⟩ := setAll_forbidden (e := Element.bare tag) (withClass_plain hplain s.classPrefix)
      (Bool.not_eq_true _ ▸ hallowed)
    rw [hf, if_neg hallowed]
    rfl

/-- an element with one class, which only the prefix can keep from being made -/
theorem createNamed_run {name : String} (htag : Element.create tag = .ok (Element.bare tag))
    (hname : name.isEmpty = false) (hallowed : isAllowedText name = true) :
    (Rendering.createNamed tag name).run.run s =
      (if isAllowedText s.classPrefix then .ok ⟨tag, none, [⟨"class", some (s.classPrefix ++ name)⟩], []⟩
      else .error .forbiddenCharacter, s) := by
  have hvalue : areAllowed [("class", s.classPrefix ++ name)] = isAllowedText s.classPrefix := by
    simp [areAllowed, Markup.isAllowedText_append, hallowed]
  rw [Rendering.createNamed, create_run htag (readable_name name) plain_nil, withClass_name hname, hvalue]
  rfl

end Created

/-! ## Answers -/

/-- a step that leaves the class prefix, and whose results depend on it alone: those with a property -/
structure Answers (x : Rendering α) (post : String → α → Prop) : Prop where
  keeps : Keeps State.classPrefix x
  answers : ∀ s a, (∃ t, Runs x s a t) ↔ post s.classPrefix a

section Answers

variable {x : Rendering α} {f : α → Rendering β} {post post' : String → α → Prop} {rest : α → String → β → Prop}

theorem Answers.congr (h : Answers x post) (hpost : ∀ p a, post p a ↔ post' p a) : Answers x post' :=
  ⟨h.keeps, fun s a => (h.answers s a).trans (hpost _ _)⟩

/-- a step of which it is known what it answers and what it leaves behind -/
theorem answers_of_run {r : String → Except Fault α} {g : State → State}
    (hx : ∀ s, x.run.run s = (r s.classPrefix, g s)) (hg : ∀ s, (g s).classPrefix = s.classPrefix) :
    Answers x fun p a => r p = .ok a := by
  have hruns (s : State) (a : α) (t : State) : Runs x s a t ↔ r s.classPrefix = .ok a ∧ g s = t := by
    rw [Runs, hx, Prod.mk.injEq]
  constructor
  · intro s a t hrun
    rw [← ((hruns s a t).1 hrun).2, hg]
  · intro s a
    constructor
    · rintro ⟨t, hrun⟩
      exact ((hruns s a t).1 hrun).1
    · exact fun ha => ⟨g s, (hruns s a _).2 ⟨ha, rfl⟩⟩

theorem answers_pure (a : α) : Answers (pure a) fun _ b => a = b :=
  (answers_of_run (r := fun _ => pure a) (g := id) (fun _ => rfl) fun _ => rfl).congr fun _ _ => pure_ok_iff

theorem answers_liftM (e : Except Fault α) : Answers (liftM e) fun _ a => e = .ok a :=
  answers_of_run (run_liftM e) fun _ => rfl

theorem answers_modify {g : State → State} (hg : ∀ s, (g s).classPrefix = s.classPrefix) :
    Answers (modify g) fun _ _ => True :=
  (answers_of_run (r := fun _ => .ok ⟨⟩) (run_modify g) hg).congr fun _ _ => iff_of_true rfl trivial

/-- **Steps in turn.** -/
theorem answers_bind (hx : Answers x post) (hf : ∀ a, Answers (f a) (rest a)) :
    Answers (x >>= f) fun p b => ∃ a, post p a ∧ rest a p b := by
  refine ⟨keeps_bind hx.keeps fun a => (hf a).keeps, fun s b => ⟨?_, ?_⟩⟩
  · rintro ⟨u, hrun⟩
    obtain ⟨a, t, hxa, hfa⟩ := runs_bind.1 hrun
    exact ⟨a, (hx.answers s a).1 ⟨t, hxa⟩, hx.keeps s a t hxa ▸ ((hf a).answers t b).1 ⟨u, hfa⟩⟩
  · rintro ⟨a, ha, hb⟩
    obtain ⟨t, hxa⟩ := (hx.answers s a).2 ha
    obtain ⟨u, hfa⟩ := ((hf a).answers t b).2 ((hx.keeps s a t hxa).symm ▸ hb)
    exact ⟨u, runs_bind.2 ⟨a, t, hxa, hfa⟩⟩

/-- a step for each entry of a list -/
theorem answers_mapM {step : α → Rendering β} {each : α → String → β → Prop} (h : ∀ a, Answers (step a) (each a))
    (as : List α) : Answers (as.mapM step) fun p bs => List.Forall₂ (fun a b => each a p b) as bs := by
  induction as with
  | nil =>
    refine (answers_pure []).congr fun p bs => ?_
    rw [List.forall₂_nil_left_iff, eq_comm]
  | cons a as ih =>
    rw [List.mapM_cons]
    refine (answers_bind (h a) fun _ => answers_bind ih fun _ => answers_pure _).congr fun p bs => ?_
    rw [List.forall₂_cons_left_iff]
    constructor
    · rintro ⟨b, hb, bs, hbs, rfl⟩
      exact ⟨b, bs, hb, hbs, rfl⟩
    · rintro ⟨b, bs, hb, hbs, rfl⟩
      exact ⟨b, hb, bs, hbs, rfl⟩

/-- a new element is the bare one with its attributes -/
theorem create_answers {tag : String} {names : Option Css.ClassNames} {attributes : List (String × String)}
    (htag : Element.create tag = .ok (Element.bare tag)) (hnames : AreReadable names) (hplain : ArePlain attributes) :
    Answers (Rendering.create tag names attributes) fun p e =>
      areAllowed (withClass p names attributes) = true ∧ (Element.bare tag).putAll (withClass p names attributes) = e := by
  let r (p : String) : Except Fault Element :=
    if areAllowed (withClass p names attributes) then .ok ((Element.bare tag).putAll (withClass p names attributes))
    else .error .forbiddenCharacter
  refine (answers_of_run (r := r) (g := id) (fun _ => create_run htag hnames hplain) fun _ => rfl).congr fun p e => ?_
  dsimp only [r]
  split_ifs with hallowed
  · simp [hallowed]
  · simp [hallowed]

end Answers

end AmpArticle.Page
