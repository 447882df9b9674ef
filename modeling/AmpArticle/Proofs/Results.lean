import Mathlib.Data.List.Forall2

/-!
Results of steps that may fail, taken apart: a pipeline has a result when each of its steps has one, and so has a list
of which each entry is worked on. It fails as the first of them does that fails.
-/

namespace AmpArticle

variable {ε α β : Type} {x : Except ε α} {f : α → Except ε β} {b : β}

theorem bind_ok_iff : (x >>= f) = .ok b ↔ ∃ a, x = .ok a ∧ f a = .ok b := by
  cases x with
  | error e =>
    constructor
    · intro h
      cases h
    · rintro ⟨a, h, -⟩
      cases h
  | ok a =>
    constructor
    · intro h
      exact ⟨a, rfl, h⟩
    · rintro ⟨a', h, hb⟩
      cases h
      exact hb

theorem pure_ok_iff {a a' : α} : (pure a : Except ε α) = .ok a' ↔ a = a' := by
  constructor
  · intro h
    cases h
    rfl
  · rintro rfl
    rfl

theorem mapError_ok_iff {ε' : Type} {g : ε → ε'} {a : α} : x.mapError g = .ok a ↔ x = .ok a := by
  cases x with
  | error e =>
    constructor
    · intro h
      cases h
    · intro h
      cases h
  | ok a' =>
    rw [Except.mapError, Except.ok.injEq, Except.ok.injEq]

section Lists

variable {step : α → Except ε β} {xs : List α}

theorem mapM_ok_iff {ys : List β} : xs.mapM step = .ok ys ↔ List.Forall₂ (fun x y => step x = .ok y) xs ys := by
  induction xs generalizing ys with
  | nil =>
    rw [List.mapM_nil, pure_ok_iff, List.forall₂_nil_left_iff, eq_comm]
  | cons x xs ih =>
    rw [List.mapM_cons, bind_ok_iff]
    constructor
    · rintro ⟨y, hy, h⟩
      obtain ⟨ys, hys, h⟩ := bind_ok_iff.1 h
      obtain rfl := pure_ok_iff.1 h
      exact .cons hy (ih.1 hys)
    · rintro (_ | ⟨hy, hys⟩)
      exact ⟨_, hy, bind_ok_iff.2 ⟨_, ih.2 hys, rfl⟩⟩

/-- a failure is that of an entry behind others that have a result -/
theorem mapM_error {fault : ε} (h : xs.mapM step = .error fault) : ∃ before x after,
    xs = before ++ x :: after ∧ (∀ y ∈ before, ∃ b, step y = .ok b) ∧ step x = .error fault := by
  induction xs with
  | nil => cases h
  | cons x xs ih =>
    rw [List.mapM_cons] at h
    cases hx : step x with
    | error fault' =>
      rw [hx] at h
      cases h
      exact ⟨[], x, xs, rfl, by simp, hx⟩
    | ok y =>
      cases hxs : xs.mapM step with
      | ok ys =>
        rw [hx, hxs] at h
        cases h
      | error fault' =>
        rw [hx, hxs] at h
        cases h
        obtain ⟨before, x', after, rfl, hbefore, hx'⟩ := ih hxs
        refine ⟨x :: before, x', after, rfl, ?_, hx'⟩
        intro z hz
        rcases List.mem_cons.1 hz with rfl | hz
        · exact ⟨y, hx⟩
        · exact hbefore z hz

end Lists

end AmpArticle
