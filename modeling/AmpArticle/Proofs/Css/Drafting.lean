import AmpArticle.Css.Style
import AmpArticle.Proofs.Results
import Mathlib.Data.List.Basic

/-!
What reading a part of a style description does to a draft. Whatever the draft holds, the part fails, or it has one
result and adds one and the same piece to the end (`Appends`).

Results:
- `gives_bind_iff`, `fails_bind_iff`: parts read one after the other;
- `forM_gives_iff`, `forM_fails_iff`: many parts read for what they add;
- `*_appends`: every part of a style description, with the selectors and properties that its declarations may have.
-/

namespace AmpArticle.Css

variable {α β : Type}

/-! ## Drafts -/

namespace Draft

/-- a draft with another one behind it -/
def append (d e : Draft) : Draft := ⟨d.declarations ++ e.declarations, d.warnings ++ e.warnings, d.log ++ e.log⟩

instance : Append Draft := ⟨append⟩

theorem append_eq (d e : Draft) :
    d ++ e = ⟨d.declarations ++ e.declarations, d.warnings ++ e.warnings, d.log ++ e.log⟩ := rfl

@[simp] theorem append_empty (d : Draft) : d ++ empty = d := by
  simp [append_eq, empty]

@[simp] theorem empty_append (d : Draft) : empty ++ d = d := by
  simp [append_eq, empty]

theorem append_assoc (d e f : Draft) : d ++ e ++ f = d ++ (e ++ f) := by
  simp [append_eq]

@[simp] theorem append_declarations (d e : Draft) : (d ++ e).declarations = d.declarations ++ e.declarations := rfl

@[simp] theorem append_warnings (d e : Draft) : (d ++ e).warnings = d.warnings ++ e.warnings := rfl

/-- drafts one behind the other -/
def join : List Draft → Draft
  | [] => empty
  | d :: rest => d ++ join rest

theorem join_declarations (ds : List Draft) : (join ds).declarations = ds.flatMap Draft.declarations := by
  induction ds with
  | nil => rfl
  | cons d ds ih => simp [join, ih]

theorem join_warnings (ds : List Draft) : (join ds).warnings = ds.flatMap Draft.warnings := by
  induction ds with
  | nil => rfl
  | cons d ds ih => simp [join, ih]

end Draft

/-! ## Results and failures -/

/-- a step has a result and adds `e`, whatever the draft holds -/
def Gives (x : Drafting α) (a : α) (e : Draft) : Prop := ∀ d, x.run d = .ok (a, d ++ e)

/-- a step fails, whatever the draft holds -/
def Fails (x : Drafting α) : Prop := ∃ fault, ∀ d, x.run d = .error fault

/-- a step has the result `a`, whatever the draft holds -/
def Yields (x : Drafting α) (a : α) : Prop := ∃ e, Gives x a e

/-- a step has a result, whatever the draft holds -/
def Works (x : Drafting α) : Prop := ∃ a, Yields x a

/-- what a step adds to an empty draft; nothing when it fails -/
def added (x : Drafting α) : Draft :=
  match x.run .empty with
  | .ok (_, d) => d
  | .error _ => .empty

/-- a step fails, or has a result and adds something; its declarations are all of a kind -/
def Appends (p : Declaration → Prop) (x : Drafting α) : Prop :=
  Fails x ∨ ∃ a e, Gives x a e ∧ ∀ w ∈ e.declarations, p w

section Steps

variable {x : Drafting α} {f : α → Drafting β} {a a' : α} {b : β} {d e e' : Draft} {p q : Declaration → Prop}

theorem gives_unique (h : Gives x a e) (h' : Gives x a' e') : a = a' ∧ e = e' := by
  have heq := (h .empty).symm.trans (h' .empty)
  simp only [Draft.empty_append, Except.ok.injEq, Prod.mk.injEq] at heq
  exact heq

theorem not_fails_of_gives (h : Gives x a e) : ¬ Fails x := by
  rintro ⟨fault, hfails⟩
  have heq := (h .empty).symm.trans (hfails .empty)
  cases heq

theorem gives_of_run (hx : Appends p x) (h : x.run d = .ok (a, e)) : ∃ e', Gives x a e' ∧ e = d ++ e' := by
  rcases hx with ⟨fault, hfails⟩ | ⟨a', e', hgives, -⟩
  · cases h.symm.trans (hfails d)
  · have heq := h.symm.trans (hgives d)
    simp only [Except.ok.injEq, Prod.mk.injEq] at heq
    obtain ⟨rfl, rfl⟩ := heq
    exact ⟨e', hgives, rfl⟩

theorem gives_iff_run (hx : Appends p x) : Gives x a e ↔ x.run .empty = .ok (a, e) := by
  constructor
  · intro h
    have hrun := h .empty
    rwa [Draft.empty_append] at hrun
  · intro h
    obtain ⟨e', hgives, rfl⟩ := gives_of_run hx h
    rwa [Draft.empty_append]

theorem fails_iff_run (hx : Appends p x) : Fails x ↔ ∃ fault, x.run .empty = .error fault := by
  constructor
  · rintro ⟨fault, hfails⟩
    exact ⟨fault, hfails .empty⟩
  · rintro ⟨fault, hrun⟩
    rcases hx with hfails | ⟨a, e, hgives, -⟩
    · exact hfails
    · cases hrun.symm.trans (hgives .empty)

theorem appends_mono (hx : Appends p x) (h : ∀ w, p w → q w) : Appends q x := by
  rcases hx with hfails | ⟨a, e, hgives, hall⟩
  · exact .inl hfails
  · exact .inr ⟨a, e, hgives, fun w hw => h w (hall w hw)⟩

theorem gives_declarations (hx : Appends p x) (h : Gives x a e) : ∀ w ∈ e.declarations, p w := by
  rcases hx with hfails | ⟨a', e', hgives, hall⟩
  · exact absurd hfails (not_fails_of_gives h)
  · rw [(gives_unique h hgives).2]
    exact hall

theorem gives_pure_iff : Gives (pure a : Drafting α) a' e ↔ a' = a ∧ e = .empty := by
  have hpure : Gives (pure a : Drafting α) a .empty := fun d => by
    rw [Draft.append_empty]
    rfl
  constructor
  · intro h
    exact gives_unique h hpure
  · rintro ⟨rfl, rfl⟩
    exact hpure

theorem not_fails_pure : ¬ Fails (pure a : Drafting α) := not_fails_of_gives (gives_pure_iff.2 ⟨rfl, rfl⟩)

theorem gives_bind (hx : Gives x a e) (hf : Gives (f a) b e') : Gives (x >>= f) b (e ++ e') := by
  intro d
  show (x.run d >>= fun r => (f r.1).run r.2) = _
  rw [hx d]
  show (f a).run (d ++ e) = _
  rw [hf, Draft.append_assoc]

theorem fails_bind_left (hx : Fails x) : Fails (x >>= f) := by
  obtain ⟨fault, hfails⟩ := hx
  refine ⟨fault, fun d => ?_⟩
  show (x.run d >>= fun r => (f r.1).run r.2) = _
  rw [hfails d]
  rfl

theorem fails_bind_right (hx : Gives x a e) (hf : Fails (f a)) : Fails (x >>= f) := by
  obtain ⟨fault, hfails⟩ := hf
  refine ⟨fault, fun d => ?_⟩
  show (x.run d >>= fun r => (f r.1).run r.2) = _
  rw [hx d]
  exact hfails (d ++ e)

theorem appends_pure : Appends p (pure a : Drafting α) :=
  .inr ⟨a, .empty, gives_pure_iff.2 ⟨rfl, rfl⟩, by simp [Draft.empty]⟩

/-- `appends_bind` for a second step that is known to begin with a result of the first -/
theorem appends_bind_of (hx : Appends p x) (hf : ∀ a e, Gives x a e → Appends p (f a)) : Appends p (x >>= f) := by
  rcases hx with hfails | ⟨a, e, hgives, hall⟩
  · exact .inl (fails_bind_left hfails)
  · rcases hf a e hgives with hfails | ⟨b, e', hgives', hall'⟩
    · exact .inl (fails_bind_right hgives hfails)
    · refine .inr ⟨b, e ++ e', gives_bind hgives hgives', fun w hw => ?_⟩
      rcases List.mem_append.1 hw with hw | hw
      · exact hall w hw
      · exact hall' w hw

theorem appends_bind (hx : Appends p x) (hf : ∀ a, Appends p (f a)) : Appends p (x >>= f) :=
  appends_bind_of hx fun a _ _ => hf a

theorem gives_bind_iff (hx : Appends p x) (hf : ∀ a, Appends q (f a)) :
    Gives (x >>= f) b d ↔ ∃ a e e', Gives x a e ∧ Gives (f a) b e' ∧ d = e ++ e' := by
  constructor
  · intro h
    rcases hx with hfails | ⟨a, e, hgives, -⟩
    · exact absurd (fails_bind_left hfails) (not_fails_of_gives h)
    · rcases hf a with hfails | ⟨b', e', hgives', -⟩
      · exact absurd (fails_bind_right hgives hfails) (not_fails_of_gives h)
      · obtain ⟨rfl, rfl⟩ := gives_unique h (gives_bind hgives hgives')
        exact ⟨a, e, e', hgives, hgives', rfl⟩
  · rintro ⟨a, e, e', hgives, hgives', rfl⟩
    exact gives_bind hgives hgives'

theorem fails_bind_iff (hx : Appends p x) (hf : ∀ a, Appends q (f a)) :
    Fails (x >>= f) ↔ Fails x ∨ ∃ a e, Gives x a e ∧ Fails (f a) := by
  constructor
  · intro h
    rcases hx with hfails | ⟨a, e, hgives, -⟩
    · exact .inl hfails
    · rcases hf a with hfails | ⟨b, e', hgives', -⟩
      · exact .inr ⟨a, e, hgives, hfails⟩
      · exact absurd h (not_fails_of_gives (gives_bind hgives hgives'))
  · rintro (hfails | ⟨a, e, hgives, hfails⟩)
    · exact fails_bind_left hfails
    · exact fails_bind_right hgives hfails

theorem fails_bind_of_gives (hx : Gives x a e) (hf : Appends p (f a)) : Fails (x >>= f) ↔ Fails (f a) := by
  constructor
  · intro h
    rcases hf with hfails | ⟨b, e', hgives, -⟩
    · exact hfails
    · exact absurd h (not_fails_of_gives (gives_bind hx hgives))
  · exact fails_bind_right hx

theorem not_fails_of_works (h : Works x) : ¬ Fails x := by
  obtain ⟨a, e, hgives⟩ := h
  exact not_fails_of_gives hgives

theorem yields_of_gives (h : Gives x a e) : Yields x a := ⟨e, h⟩

theorem yields_pure : Yields (pure a : Drafting α) a := yields_of_gives (gives_pure_iff.2 ⟨rfl, rfl⟩)

theorem yields_bind (hx : Yields x a) (hf : Yields (f a) b) : Yields (x >>= f) b := by
  obtain ⟨e, hgives⟩ := hx
  obtain ⟨e', hgives'⟩ := hf
  exact ⟨e ++ e', gives_bind hgives hgives'⟩

theorem fails_bind_of_yields (hx : Yields x a) (hf : Appends p (f a)) : Fails (x >>= f) ↔ Fails (f a) := by
  obtain ⟨e, hgives⟩ := hx
  exact fails_bind_of_gives hgives hf

theorem added_eq (h : Gives x a e) : added x = e := by
  have hrun := h .empty
  rw [Draft.empty_append] at hrun
  rw [added, hrun]

theorem gives_added (h : Works x) : ∃ a, Gives x a (added x) := by
  obtain ⟨a, e, hgives⟩ := h
  exact ⟨a, by rwa [added_eq hgives]⟩

theorem works_of_yields (h : Yields x a) : Works x := ⟨a, h⟩

theorem works_of_gives (h : Gives x a e) : Works x := ⟨a, e, h⟩

theorem works_pure : Works (pure a : Drafting α) := works_of_yields yields_pure

theorem works_bind (hx : Works x) (hf : ∀ a, Works (f a)) : Works (x >>= f) := by
  obtain ⟨a, hyields⟩ := hx
  obtain ⟨b, hyields'⟩ := hf a
  exact ⟨b, yields_bind hyields hyields'⟩

/-- a step fails in front of one that works when it fails alone -/
theorem fails_bind_works (hx : Appends p x) (hf : ∀ a, Works (f a)) : Fails (x >>= f) ↔ Fails x := by
  constructor
  · intro h
    rcases hx with hfails | ⟨a, e, hgives, -⟩
    · exact hfails
    · obtain ⟨b, e', hgives'⟩ := hf a
      exact absurd h (not_fails_of_gives (gives_bind hgives hgives'))
  · exact fails_bind_left

end Steps

/-! ## Steps for many -/

section Many

variable {γ : Type} {f : γ → Drafting Unit} {p : Declaration → Prop} {d : Draft}

theorem appends_forM {xs : List γ} (hf : ∀ x ∈ xs, Appends p (f x)) : Appends p (xs.forM f) := by
  induction xs with
  | nil => exact appends_pure
  | cons x xs ih =>
    exact appends_bind (hf x List.mem_cons_self) fun _ => ih fun y hy => hf y (List.mem_cons_of_mem _ hy)

/-- many steps have a result when each of them has one, and add what each of them adds -/
theorem forM_gives_iff {xs : List γ} (hf : ∀ x ∈ xs, Appends p (f x)) : Gives (xs.forM f) () d ↔
    (∀ x ∈ xs, Works (f x)) ∧ d = Draft.join (xs.map fun x => added (f x)) := by
  induction xs generalizing d with
  | nil =>
    rw [show List.forM [] f = pure () from rfl, gives_pure_iff]
    simp [Draft.join]
  | cons x xs ih =>
    have hrest : ∀ y ∈ xs, Appends p (f y) := fun y hy => hf y (List.mem_cons_of_mem _ hy)
    rw [show List.forM (x :: xs) f = f x >>= fun _ => xs.forM f from rfl,
      gives_bind_iff (hf x List.mem_cons_self) fun _ => appends_forM hrest]
    constructor
    · rintro ⟨⟨⟩, e, e', hx, hxs, rfl⟩
      obtain ⟨hworks, rfl⟩ := (ih hrest).1 hxs
      exact ⟨List.forall_mem_cons.2 ⟨works_of_gives hx, hworks⟩, by rw [List.map_cons, added_eq hx]; rfl⟩
    · rintro ⟨hworks, rfl⟩
      obtain ⟨hx, hxs⟩ := List.forall_mem_cons.1 hworks
      obtain ⟨⟨⟩, hgives⟩ := gives_added hx
      exact ⟨(), _, _, hgives, (ih hrest).2 ⟨hxs, rfl⟩, rfl⟩

theorem forM_gives_empty {xs : List γ} (hf : ∀ x ∈ xs, Gives (f x) () .empty) : Gives (xs.forM f) () .empty := by
  induction xs with
  | nil => exact gives_pure_iff.2 ⟨rfl, rfl⟩
  | cons x xs ih =>
    have hrest := ih fun y hy => hf y (List.mem_cons_of_mem _ hy)
    exact gives_bind (f := fun _ => xs.forM f) (hf x List.mem_cons_self) hrest

/-- many steps of which all but one add nothing -/
theorem forM_gives_single {xs : List γ} {x : γ} {e : Draft} (hnodup : xs.Nodup) (hx : x ∈ xs) (h : Gives (f x) () e)
    (hothers : ∀ y ∈ xs, y ≠ x → Gives (f y) () .empty) : Gives (xs.forM f) () e := by
  induction xs with
  | nil => cases hx
  | cons y ys ih =>
    obtain ⟨hy, hys⟩ := List.nodup_cons.1 hnodup
    have hrest : ∀ z ∈ ys, z ≠ x → Gives (f z) () .empty := fun z hz => hothers z (List.mem_cons_of_mem _ hz)
    rcases List.mem_cons.1 hx with rfl | hx
    · have hempty := forM_gives_empty fun z hz => hrest z hz fun heq => hy (heq ▸ hz)
      rw [← Draft.append_empty e]
      exact gives_bind (f := fun _ => ys.forM f) h hempty
    · have hne : y ≠ x := fun heq => hy (heq ▸ hx)
      rw [← Draft.empty_append e]
      exact gives_bind (f := fun _ => ys.forM f) (hothers y List.mem_cons_self hne) (ih hys hx hrest)

theorem forM_fails_iff {xs : List γ} (hf : ∀ x ∈ xs, Appends p (f x)) :
    Fails (xs.forM f) ↔ ∃ x ∈ xs, Fails (f x) := by
  induction xs with
  | nil =>
    rw [show List.forM [] f = pure () from rfl]
    simp [not_fails_pure]
  | cons x xs ih =>
    have hrest : ∀ y ∈ xs, Appends p (f y) := fun y hy => hf y (List.mem_cons_of_mem _ hy)
    rw [show List.forM (x :: xs) f = f x >>= fun _ => xs.forM f from rfl,
      fails_bind_iff (hf x List.mem_cons_self) fun _ => appends_forM hrest, ih hrest]
    rcases hf x List.mem_cons_self with hfails | ⟨_, e, hgives, -⟩
    · simp [hfails]
    · have hnot := not_fails_of_gives hgives
      constructor
      · rintro (hfails | ⟨-, -, -, y, hy, hfails⟩)
        · exact absurd hfails hnot
        · exact ⟨y, List.mem_cons_of_mem _ hy, hfails⟩
      · rintro ⟨y, hy, hfails⟩
        rcases List.mem_cons.1 hy with rfl | hy
        · exact absurd hfails hnot
        · exact .inr ⟨(), e, hgives, y, hy, hfails⟩

theorem works_forM {xs : List γ} (hf : ∀ x ∈ xs, Works (f x)) : Works (xs.forM f) := by
  induction xs with
  | nil => exact works_pure
  | cons x xs ih =>
    exact works_bind (hf x List.mem_cons_self) fun _ => ih fun y hy => hf y (List.mem_cons_of_mem _ hy)

theorem appends_mapM {g : γ → Drafting β} {xs : List γ} (hg : ∀ x ∈ xs, Appends p (g x)) :
    Appends p (xs.mapM g) := by
  induction xs with
  | nil => exact appends_pure
  | cons x xs ih =>
    rw [List.mapM_cons]
    refine appends_bind (hg x List.mem_cons_self) fun _ => ?_
    exact appends_bind (ih fun y hy => hg y (List.mem_cons_of_mem _ hy)) fun _ => appends_pure

theorem mapM_fails_iff {g : γ → Drafting β} {xs : List γ} (hg : ∀ x ∈ xs, Appends p (g x)) :
    Fails (xs.mapM g) ↔ ∃ x ∈ xs, Fails (g x) := by
  induction xs with
  | nil => simp [not_fails_pure]
  | cons x xs ih =>
    have hrest : ∀ y ∈ xs, Appends p (g y) := fun y hy => hg y (List.mem_cons_of_mem _ hy)
    rw [List.mapM_cons, fails_bind_iff (q := p) (hg x List.mem_cons_self)
      fun _ => appends_bind (appends_mapM hrest) fun _ => appends_pure]
    simp only [fails_bind_iff (q := p) (appends_mapM hrest) fun _ => appends_pure, ih hrest, not_fails_pure, and_false,
      exists_false, or_false, List.mem_cons, exists_eq_or_imp]
    rcases hg x List.mem_cons_self with hfails | ⟨y, e, hgives, -⟩
    · simp [hfails]
    · constructor
      · rintro (h | ⟨_, _, -, h⟩)
        · exact .inl h
        · exact .inr h
      · rintro (h | h)
        · exact .inl h
        · exact .inr ⟨y, e, hgives, h⟩

theorem mapM_gives_mem {g : γ → Drafting β} {xs : List γ} {ys : List β} (hg : ∀ x ∈ xs, Appends p (g x))
    (h : Gives (xs.mapM g) ys d) : ∀ y ∈ ys, ∃ x ∈ xs, ∃ e, Gives (g x) y e := by
  induction xs generalizing ys d with
  | nil =>
    rw [List.mapM_nil, gives_pure_iff] at h
    simp [h.1]
  | cons x xs ih =>
    have hrest : ∀ y ∈ xs, Appends p (g y) := fun y hy => hg y (List.mem_cons_of_mem _ hy)
    rw [List.mapM_cons, gives_bind_iff (q := p) (hg x List.mem_cons_self)
      fun _ => appends_bind (appends_mapM hrest) fun _ => appends_pure] at h
    obtain ⟨y, e, _, hy, htail, -⟩ := h
    rw [gives_bind_iff (q := p) (appends_mapM hrest) fun _ => appends_pure] at htail
    obtain ⟨zs, _, _, hzs, hend, -⟩ := htail
    obtain ⟨rfl, -⟩ := gives_pure_iff.1 hend
    intro z hz
    rcases List.mem_cons.1 hz with rfl | hz
    · exact ⟨x, List.mem_cons_self, e, hy⟩
    · obtain ⟨x', hx', hgives⟩ := ih hrest hzs z hz
      exact ⟨x', List.mem_cons_of_mem _ hx', hgives⟩

end Many

/-! ## Single steps -/

namespace Drafting

variable {p : Declaration → Prop}

theorem modify_gives {g : Draft → Draft} {e : Draft} (h : ∀ d, g d = d ++ e) :
    Gives (modify g : Drafting Unit) () e := by
  intro d
  rw [← h]
  rfl

theorem declare_gives (selector property value : String) :
    Gives (declare selector property value) () ⟨[⟨selector, property, value⟩], [], []⟩ :=
  modify_gives fun d => by simp [Draft.append_eq]

theorem note_gives (lines : List Media.LogLine) : Gives (note lines) () ⟨[], [], lines⟩ :=
  modify_gives fun d => by simp [Draft.append_eq]

theorem warn_gives (message : String) (subject : Json) (cause : Option Fault) :
    Gives (warn message subject cause) () ⟨[], [.about message subject cause], [⟨.warning, message⟩]⟩ :=
  modify_gives fun d => by simp [Draft.append_eq]

theorem liftM_gives {r : Except Fault α} {a : α} (h : r = .ok a) : Gives (liftM r) a .empty := fun d => by
  rw [h, Draft.append_empty]
  rfl

theorem liftM_fails {r : Except Fault α} {fault : Fault} (h : r = .error fault) : Fails (liftM r : Drafting α) :=
  ⟨fault, fun d => by rw [h]; rfl⟩

theorem liftM_fails_iff {r : Except Fault α} : Fails (liftM r : Drafting α) ↔ ¬ ∃ a, r = .ok a := by
  cases r with
  | error fault => exact iff_of_true (liftM_fails rfl) (by rintro ⟨a, h⟩; cases h)
  | ok a => exact iff_of_false (not_fails_of_gives (liftM_gives rfl)) (not_not.2 ⟨a, rfl⟩)

theorem throw_fails (fault : Fault) : Fails (throw fault : Drafting α) := ⟨fault, fun _ => rfl⟩

theorem declare_appends {selector property value : String} (h : p ⟨selector, property, value⟩) :
    Appends p (declare selector property value) :=
  .inr ⟨(), _, declare_gives selector property value, fun w hw => by rw [List.mem_singleton.1 hw]; exact h⟩

theorem note_appends (lines : List Media.LogLine) : Appends p (note lines) :=
  .inr ⟨(), _, note_gives lines, fun w hw => by cases hw⟩

theorem warn_appends (message : String) (subject : Json) (cause : Option Fault) :
    Appends p (warn message subject cause) :=
  .inr ⟨(), _, warn_gives message subject cause, fun w hw => by cases hw⟩

theorem liftM_appends (r : Except Fault α) : Appends p (liftM r : Drafting α) := by
  cases r with
  | error fault => exact .inl (liftM_fails rfl)
  | ok a => exact .inr ⟨a, .empty, liftM_gives rfl, by simp [Draft.empty]⟩

theorem note_yields (lines : List Media.LogLine) : Yields (note lines) () := yields_of_gives (note_gives _)

theorem warn_yields (message : String) (subject : Json) (cause : Option Fault) :
    Yields (warn message subject cause) () := yields_of_gives (warn_gives _ _ _)

theorem liftM_yields {r : Except Fault α} {a : α} (h : r = .ok a) : Yields (liftM r : Drafting α) a :=
  yields_of_gives (liftM_gives h)

theorem declare_works (selector property value : String) : Works (declare selector property value) :=
  works_of_gives (declare_gives _ _ _)

theorem warn_works (message : String) (subject : Json) (cause : Option Fault) : Works (warn message subject cause) :=
  works_of_gives (warn_gives _ _ _)

theorem color_works (value : Json) (name : String) : Works (color value name) := by
  unfold color
  split
  · exact works_pure
  · split
    · exact works_pure
    · exact works_bind (warn_works _ _ _) fun _ => works_pure

theorem color_appends (value : Json) (name : String) : Appends p (color value name) := by
  unfold color
  split
  · exact appends_pure
  · split
    · exact appends_pure
    · exact appends_bind (warn_appends _ _ _) fun _ => appends_pure

theorem number_appends [Room] (value : Json) (name : String) : Appends p (number value name) := by
  unfold number
  simp only
  split
  · exact appends_pure
  · split
    · exact appends_bind (.inl (throw_fails _)) fun _ => appends_bind (liftM_appends _) fun _ =>
        appends_bind (warn_appends _ _ _) fun _ => appends_pure
    · exact appends_bind (liftM_appends _) fun _ => appends_bind (warn_appends _ _ _) fun _ => appends_pure

end Drafting

end AmpArticle.Css
