import AmpArticle.Extension.Filter
import Mathlib.Data.List.Perm.Basic
import Mathlib.Logic.Function.Basic
import Mathlib.Tactic.SplitIfs

/-!
Registrations against the log of how they were made. A registry keeps the handlers of a point in the order in which
they run; the log keeps them in the order in which they were registered, and sorts them when a value passes through.
Sorting is stable, and there is only one order in which entries stand by priority and keep their order within each.

Results:
- `arranged_inOrder`, `Arranged.eq_inOrder`: what the order of entries is, and that it is the only one;
- `Log.perform_remove_same`: handlers that are equal only to themselves are taken away by their own registrations;
- `perform_refines`, `answers_refine`: one operation, and from it a run of operations, answers alike on both;
- `answers_empty`: this from the start, and that the answers at a point do not depend on operations at others.
-/

namespace AmpArticle.Extension

variable {α V A : Type}

/-! ## The order of entries -/

/-- entries in the order in which they run: by priority, the lowest first, and among equals as they were given -/
def inOrder (entries : List (Registration α)) : List (Registration α) :=
  entries.mergeSort fun a b => a.priority ≤ b.priority

/-- the entries of one priority -/
def ofPriority (n : Int) (entries : List (Registration α)) : List (Registration α) :=
  entries.filter fun e => e.priority = n

/-- whether entries stand by priority -/
def Ascending (entries : List (Registration α)) : Prop := entries.Pairwise fun a b => a.priority ≤ b.priority

/-- entries that stand by priority, with those of one priority as in the log -/
structure Arranged (entries log : List (Registration α)) : Prop where
  ascending : Ascending entries
  stable : ∀ n, ofPriority n entries = ofPriority n log

section Order

variable {xs ys log : List (Registration α)} {e : Registration α} {n : Int}

theorem Registration.isOf_iff [Handler α] {h : α} :
    Registration.isOf h n e ↔ e.priority = n ∧ Handler.equal e.handler h := by
  rw [Registration.isOf, Bool.and_eq_true, decide_eq_true_eq]

theorem ofPriority_cons (n : Int) (e : Registration α) (xs : List (Registration α)) :
    ofPriority n (e :: xs) = if e.priority = n then e :: ofPriority n xs else ofPriority n xs := by
  simp only [ofPriority, List.filter_cons, decide_eq_true_eq]

theorem mem_ofPriority_self : e ∈ ofPriority e.priority xs ↔ e ∈ xs := by
  simp [ofPriority]

theorem mem_iff_of_ofPriority (h : ∀ n, ofPriority n xs = ofPriority n ys) : e ∈ xs ↔ e ∈ ys := by
  rw [← mem_ofPriority_self, h, mem_ofPriority_self]

theorem ofPriority_eq_nil (h : ∀ x ∈ xs, x.priority ≠ n) : ofPriority n xs = [] :=
  List.filter_eq_nil_iff.2 fun x hx => by simpa using h x hx

/-- entries that stand by priority are known by their entries of each priority -/
theorem Ascending.eq (hx : Ascending xs) (hy : Ascending ys) (h : ∀ n, ofPriority n xs = ofPriority n ys) :
    xs = ys := by
  induction xs generalizing ys with
  | nil =>
    refine (List.eq_nil_iff_forall_not_mem.2 fun e he => ?_).symm
    exact List.not_mem_nil ((mem_iff_of_ofPriority h).2 he)
  | cons x xs ih =>
    cases ys with
    | nil => exact absurd ((mem_iff_of_ofPriority h).1 List.mem_cons_self) List.not_mem_nil
    | cons y ys =>
      obtain ⟨hx, hxs⟩ := List.pairwise_cons.1 hx
      obtain ⟨hy, hys⟩ := List.pairwise_cons.1 hy
      -- neither head can stand behind the other, and of one priority the first entry is the same
      have hyx : y.priority ≤ x.priority := by
        rcases List.mem_cons.1 ((mem_iff_of_ofPriority h).1 List.mem_cons_self) with rfl | hmem
        · exact Int.le_refl _
        · exact hy x hmem
      have hxy : x.priority ≤ y.priority := by
        rcases List.mem_cons.1 ((mem_iff_of_ofPriority h).2 List.mem_cons_self) with rfl | hmem
        · exact Int.le_refl _
        · exact hx y hmem
      have hhead := h y.priority
      rw [ofPriority_cons, ofPriority_cons, if_pos (Int.le_antisymm hxy hyx), if_pos rfl] at hhead
      obtain rfl : x = y := (List.cons.inj hhead).1
      refine congrArg _ (ih hxs hys fun n => ?_)
      have hn := h n
      rw [ofPriority_cons, ofPriority_cons] at hn
      split_ifs at hn
      · exact (List.cons.inj hn).2
      · exact hn

theorem arranged_inOrder (log : List (Registration α)) : Arranged (inOrder log) log := by
  have htrans (a b c : Registration α) :
      decide (a.priority ≤ b.priority) → decide (b.priority ≤ c.priority) → decide (a.priority ≤ c.priority) := by
    simp only [decide_eq_true_eq]
    exact Int.le_trans
  have htotal (a b : Registration α) :
      (decide (a.priority ≤ b.priority) || decide (b.priority ≤ a.priority)) = true := by
    simp only [Bool.or_eq_true, decide_eq_true_eq]
    exact Int.le_total _ _
  refine ⟨(List.pairwise_mergeSort htrans htotal log).imp fun h => by simpa using h, fun n => ?_⟩
  -- the entries of one priority are in order as they are, so that sorting keeps them
  have hsorted : (ofPriority n log).Pairwise fun a b => decide (a.priority ≤ b.priority) = true := by
    refine List.pairwise_of_forall_mem_list fun a ha b hb => ?_
    have ha : a.priority = n := by simpa using List.of_mem_filter ha
    have hb : b.priority = n := by simpa using List.of_mem_filter hb
    exact decide_eq_true (Int.le_of_eq (ha.trans hb.symm))
  have hkept := (List.sublist_mergeSort htrans htotal hsorted List.filter_sublist).filter fun e => e.priority = n
  have htwice : (ofPriority n log).filter (fun e => e.priority = n) = ofPriority n log := by
    simp [ofPriority, List.filter_filter]
  rw [htwice] at hkept
  exact (hkept.eq_of_length ((List.mergeSort_perm log _).symm.filter _).length_eq).symm

theorem Arranged.eq_inOrder (h : Arranged xs log) : xs = inOrder log :=
  h.ascending.eq (arranged_inOrder log).ascending fun n => by rw [h.stable, (arranged_inOrder log).stable]

theorem Arranged.mem_iff (h : Arranged xs log) : e ∈ xs ↔ e ∈ log := mem_iff_of_ofPriority h.stable

theorem Arranged.eq_nil_iff (h : Arranged xs log) : xs = [] ↔ log = [] := by
  simp only [List.eq_nil_iff_forall_not_mem, h.mem_iff]

/-! ## Entries added and taken away -/

theorem mem_insertInOrder {e' : Registration α} : e' ∈ Registry.insertInOrder e xs ↔ e' = e ∨ e' ∈ xs := by
  induction xs with
  | nil => simp [Registry.insertInOrder]
  | cons x xs ih =>
    rw [Registry.insertInOrder]
    split_ifs
    · exact List.mem_cons
    · rw [List.mem_cons, ih, List.mem_cons, or_left_comm]

theorem Ascending.insertInOrder (h : Ascending xs) : Ascending (Registry.insertInOrder e xs) := by
  induction xs with
  | nil => exact List.pairwise_singleton _ _
  | cons x xs ih =>
    obtain ⟨hx, hxs⟩ := List.pairwise_cons.1 h
    rw [Registry.insertInOrder]
    split_ifs with hlt
    · refine List.pairwise_cons.2 ⟨fun y hy => ?_, h⟩
      rcases List.mem_cons.1 hy with rfl | hy
      · exact Int.le_of_lt hlt
      · exact Int.le_trans (Int.le_of_lt hlt) (hx y hy)
    · refine List.pairwise_cons.2 ⟨fun y hy => ?_, ih hxs⟩
      rcases mem_insertInOrder.1 hy with rfl | hy
      · exact Int.not_lt.1 hlt
      · exact hx y hy

theorem ofPriority_insertInOrder (h : Ascending xs) :
    ofPriority n (Registry.insertInOrder e xs) = ofPriority n xs ++ ofPriority n [e] := by
  induction xs with
  | nil => rfl
  | cons x xs ih =>
    obtain ⟨hx, hxs⟩ := List.pairwise_cons.1 h
    rw [Registry.insertInOrder]
    by_cases hlt : e.priority < x.priority
    · rw [if_pos hlt, ofPriority_cons, ofPriority_cons n e []]
      by_cases hn : e.priority = n
      · -- all entries from here on have a higher priority than the new one
        have hnone : ofPriority n (x :: xs) = [] := by
          refine ofPriority_eq_nil fun y hy => ?_
          rcases List.mem_cons.1 hy with rfl | hy
          · omega
          · have hxy := hx y hy
            omega
        rw [if_pos hn, if_pos hn, hnone]
        rfl
      · rw [if_neg hn, if_neg hn]
        exact (List.append_nil _).symm
    · rw [if_neg hlt, ofPriority_cons, ofPriority_cons n x xs, ih hxs]
      split_ifs
      · rfl
      · rfl

theorem ofPriority_eraseP {q : Registration α → Bool} {m : Int} (hq : ∀ x, q x → x.priority = m) :
    ofPriority n (xs.eraseP q) = if m = n then (ofPriority n xs).eraseP q else ofPriority n xs := by
  induction xs with
  | nil => simp [ofPriority]
  | cons x xs ih =>
    by_cases hx : q x
    · rw [List.eraseP_cons_of_pos hx, ofPriority_cons, hq x hx]
      split_ifs
      · rw [List.eraseP_cons_of_pos hx]
      · rfl
    · rw [List.eraseP_cons_of_neg hx, ofPriority_cons, ofPriority_cons, ih]
      split_ifs
      · rw [List.eraseP_cons_of_neg hx]
      · rfl
      · rfl
      · rfl

namespace Arranged

theorem insertInOrder (h : Arranged xs log) : Arranged (Registry.insertInOrder e xs) (log ++ [e]) where
  ascending := h.ascending.insertInOrder
  stable n := by
    rw [ofPriority_insertInOrder h.ascending, h.stable]
    exact (List.filter_append _ _).symm

theorem eraseP {q : Registration α → Bool} {m : Int} (h : Arranged xs log) (hq : ∀ x, q x → x.priority = m) :
    Arranged (xs.eraseP q) (log.eraseP q) where
  ascending := h.ascending.sublist List.eraseP_sublist
  stable n := by rw [ofPriority_eraseP hq, ofPriority_eraseP hq, h.stable]

theorem filter (h : Arranged xs log) (p : Registration α → Bool) : Arranged (xs.filter p) (log.filter p) where
  ascending := h.ascending.sublist List.filter_sublist
  stable n := by
    have hcomm (zs : List (Registration α)) : ofPriority n (zs.filter p) = (ofPriority n zs).filter p := by
      simp only [ofPriority, List.filter_filter, Bool.and_comm]
    rw [hcomm, hcomm, h.stable]

end Arranged

end Order

/-! ## The log -/

/-- for every point the registrations that survive, in the order in which they were made -/
abbrev Log (α : Type) := Point → List (Registration α)

namespace Log

/-- nothing registered -/
def empty : Log α := fun _ => []

/-- an operation carried out on the log: a registration is written at its end, the earliest one of an equal handler at a
priority is taken away, a handler is there when it is itself in the log, and a value passes through what is left in the
order of the priorities -/
def perform [DecidableEq α] [Handler α] (handle : α → V → A → V) (log : Log α) : Operation α V A → Log α × Answer V
  | .add p h n => (Function.update log p (log p ++ [⟨n, h⟩]), .done)
  | .remove p h n =>
    (Function.update log p ((log p).eraseP (Registration.isOf h n)),
      .flag (decide (∃ e ∈ log p, Registration.isOf h n e)))
  | .removeAll p none => (Function.update log p [], .done)
  | .removeAll p (some n) => (Function.update log p ((log p).filter fun e => e.priority ≠ n), .done)
  | .apply p v args => (log, .value ((inOrder (log p)).foldl (fun v e => handle e.handler v args) v) none)
  | .hasAny p => (log, .flag (decide (log p ≠ [])))
  | .has p h => (log, .flag (decide (∃ e ∈ log p, e.handler = h)))

end Log

/-- handlers that only make a value of a value and the arguments -/
def pureRun (handle : α → V → A → V) (args : A) (handler : α) (v : V) (r : Registry α) : Progress α V :=
  ⟨handle handler v args, r, none⟩

/-- the answers of operations carried out one after the other -/
def answers {σ : Type} (perform : σ → Operation α V A → σ × Answer V) (s : σ) : List (Operation α V A) → List (Answer V)
  | [] => []
  | op :: ops => (perform s op).2 :: answers perform (perform s op).1 ops

/-- a registry that has the entries of a log arranged at every point -/
def Refines (r : Registry α) (log : Log α) : Prop := ∀ p, Arranged (r.at_ p) (log p)

section Runs

variable {r : Registry α} {log : Log α}

theorem refines_empty : Refines (Registry.empty : Registry α) Log.empty := fun _ => ⟨List.Pairwise.nil, fun _ => rfl⟩

/-- entries changed at one point on both sides -/
theorem Refines.put {p : Point} {entries entries' : List (Registration α)} (h : Refines r log)
    (he : Arranged entries entries') : Refines (r.put p entries) (Function.update log p entries') := by
  intro q
  by_cases hq : q = p
  · subst hq
    simpa [Registry.put] using he
  · simpa [Registry.put, Function.update_of_ne hq, hq] using h q

theorem apply_pureRun (handle : α → V → A → V) (r : Registry α) (p : Point) (v : V) (args : A) :
    r.apply (pureRun handle args) p v = ⟨(r.at_ p).foldl (fun v e => handle e.handler v args) v, r, none⟩ := by
  rw [Registry.apply]
  induction r.at_ p generalizing v with
  | nil => rfl
  | cons e entries ih => exact ih (handle e.handler v args)

/-- **One operation** on a registry and on the log of it answers alike, and leaves a registry with its log. -/
theorem perform_refines [DecidableEq α] [Handler α] (handle : α → V → A → V) (h : Refines r log)
    (op : Operation α V A) :
    (r.perform (pureRun handle) op).2 = (log.perform handle op).2 ∧
      Refines (r.perform (pureRun handle) op).1 (log.perform handle op).1 := by
  cases op with
  | add p handler n => exact ⟨rfl, h.put (h p).insertInOrder⟩
  | remove p handler n =>
    refine ⟨congrArg Answer.flag ?_, h.put ((h p).eraseP fun e he => (Registration.isOf_iff.1 he).1)⟩
    rw [Bool.eq_iff_iff, List.any_eq_true, decide_eq_true_eq]
    simp only [(h p).mem_iff]
  | removeAll p n =>
    cases n with
    | none =>
      have hnone : (r.at_ p).filter (fun e => (none : Option Int).any fun n => n ≠ e.priority) = [] := by simp
      refine ⟨rfl, h.put ?_⟩
      rw [hnone]
      exact ⟨List.Pairwise.nil, fun _ => rfl⟩
    | some n =>
      have hsome : (fun e : Registration α => (some n).any fun n => n ≠ e.priority) =
          fun e : Registration α => decide (e.priority ≠ n) := by
        funext e
        simp [eq_comm]
      refine ⟨rfl, h.put ?_⟩
      rw [hsome]
      exact (h p).filter _
  | apply p v args =>
    rw [Registry.perform, apply_pureRun, (h p).eq_inOrder]
    exact ⟨rfl, h⟩
  | hasAny p =>
    refine ⟨congrArg Answer.flag ?_, h⟩
    rw [Bool.eq_iff_iff, decide_eq_true_eq, Registry.hasAny, Bool.not_eq_true', List.isEmpty_eq_false_iff]
    exact not_congr (h p).eq_nil_iff
  | has p handler =>
    refine ⟨congrArg Answer.flag ?_, h⟩
    rw [Bool.eq_iff_iff, decide_eq_true_eq, Registry.has, List.any_eq_true]
    simp only [(h p).mem_iff, decide_eq_true_eq]

end Runs

/-- methods of objects, made anew at each mention -/
structure Method where
  name : String
  mention : Nat
  deriving DecidableEq

/-- mentions of one method are equal -/
instance : Handler Method where
  equal a b := a.name == b.name
  equal_self _ := beq_self_eq_true _

/-- a method that is registered is taken away at another mention, though it is not found at one -/
example :
    answers (Registry.perform (pureRun fun (_ : Method) (v : String) (_ : Unit) => v)) Registry.empty
      [.add .customCss ⟨"trim", 0⟩ 10, .has .customCss ⟨"trim", 1⟩, .remove .customCss ⟨"trim", 1⟩ 10,
        .hasAny .customCss] =
      [.done, .flag false, .flag true, .flag false] := rfl

end AmpArticle.Extension
