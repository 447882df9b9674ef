import AmpArticle.Proofs.Extension.Log

/-!
Handlers that work on the registrations while they run. A handler is a script: it carries out operations, looks at the
answers and ends with a value or a failure; one of its operations may be to pass another value through the handlers of a
point, its own among them. How deeply this may be nested is bounded, by any bound.

Which handlers an application calls is settled when it begins. What they do to the registrations in the meantime adds up:
every call leaves behind the changes that it made, those of applications inside it included, and nothing else.

Results:
- `handle_changes`: a call leaves the registry with the changes that it made, one after the other;
- `passes_apply`: the calls of an application;
- `apply_snapshot`: an application calls the handlers registered when it began, in their order, and leaves the registry
  with the changes of all calls;
- `run_eq_handle`: the filters of an observer are such scripts.
-/

namespace AmpArticle.Extension

variable {α V A : Type}

/-! ## Changes -/

/-- a change of registrations -/
inductive Change (α : Type) where
  | add (p : Point) (handler : α) (priority : Int)
  | remove (p : Point) (handler : α) (priority : Int)
  | removeAll (p : Point) (priority : Option Int)

/-- a change as an operation -/
def Change.operation : Change α → Operation α Unit Unit
  | .add p h n => .add p h n
  | .remove p h n => .remove p h n
  | .removeAll p n => .removeAll p n

/-- a registry after a change -/
def Registry.changed [DecidableEq α] [Handler α] (r : Registry α) (c : Change α) : Registry α :=
  (r.perform (pureRun fun _ v _ => v) c.operation).1

/-- a log after a change -/
def Log.changed [DecidableEq α] [Handler α] (log : Log α) (c : Change α) : Log α :=
  (log.perform (fun _ v _ => v) c.operation).1

theorem Refines.changed [DecidableEq α] [Handler α] {r : Registry α} {log : Log α} (h : Refines r log)
    (cs : List (Change α)) :
    Refines (cs.foldl Registry.changed r) (cs.foldl Log.changed log) := by
  induction cs generalizing r log with
  | nil => exact h
  | cons c cs ih => exact ih (perform_refines _ h c.operation).2

/-! ## Calls -/

/-- one call of a handler: what it was given, how far it came, and the changes that were made until then -/
structure Call (α V : Type) where
  entry : Registration α
  value : V
  before : Registry α
  after : Progress α V
  changes : List (Change α)

/-- the calls of handlers, each on the value and the registry that the one before it left; none follows a failure -/
def callsOf (run : α → V → Registry α → Progress α V) (made : α → V → Registry α → List (Change α)) :
    List (Registration α) → V → Registry α → List (Call α V)
  | [], _, _ => []
  | e :: rest, v, r =>
    let after := run e.handler v r
    ⟨e, v, r, after, made e.handler v r⟩ ::
      match after.fault with
      | some _ => []
      | none => callsOf run made rest after.value after.registry

/-- handlers called one after the other: each on the value and the registry that the one before it left, until one of
them fails -/
inductive Passes (run : α → V → Registry α → Progress α V) (made : α → V → Registry α → List (Change α)) :
    List (Registration α) → V → Registry α → List (Call α V) → Progress α V → Prop
  | nil {v : V} {r : Registry α} : Passes run made [] v r [] ⟨v, r, none⟩
  | cons {e : Registration α} {rest : List (Registration α)} {v : V} {r : Registry α} {calls : List (Call α V)}
      {after : Progress α V} : (run e.handler v r).fault = none →
      Passes run made rest (run e.handler v r).value (run e.handler v r).registry calls after →
      Passes run made (e :: rest) v r (⟨e, v, r, run e.handler v r, made e.handler v r⟩ :: calls) after
  | fail {e : Registration α} {rest : List (Registration α)} {v : V} {r : Registry α} {fault : Fault} :
      (run e.handler v r).fault = some fault →
      Passes run made (e :: rest) v r [⟨e, v, r, run e.handler v r, made e.handler v r⟩] (run e.handler v r)

section Calls

variable {run : α → V → Registry α → Progress α V} {made : α → V → Registry α → List (Change α)}
  {entries : List (Registration α)} {v : V} {r : Registry α} {calls : List (Call α V)} {after : Progress α V}

theorem step_failed {s : Progress α V} {fault : Fault} (h : s.fault = some fault) (entries : List (Registration α)) :
    entries.foldl (Progress.step run) s = s := by
  induction entries with
  | nil => rfl
  | cons e entries ih => rw [List.foldl_cons, Progress.step, h, ih]

theorem passes_callsOf (run : α → V → Registry α → Progress α V) (made : α → V → Registry α → List (Change α))
    (entries : List (Registration α)) (v : V) (r : Registry α) :
    Passes run made entries v r (callsOf run made entries v r) (entries.foldl (Progress.step run) ⟨v, r, none⟩) := by
  induction entries generalizing v r with
  | nil => exact .nil
  | cons e entries ih =>
    have hstep : Progress.step run ⟨v, r, none⟩ e = run e.handler v r := rfl
    rw [callsOf, List.foldl_cons, hstep]
    cases hfault : (run e.handler v r).fault with
    | some fault =>
      rw [step_failed hfault]
      exact .fail hfault
    | none =>
      have hrest := ih (run e.handler v r).value (run e.handler v r).registry
      rw [← hfault] at hrest
      exact .cons hfault hrest

/-- **The calls of an application** are those of the handlers that are registered when it begins. -/
theorem passes_apply (run : α → V → Registry α → Progress α V) (made : α → V → Registry α → List (Change α))
    (r : Registry α) (p : Point) (v : V) :
    Passes run made (r.at_ p) v r (callsOf run made (r.at_ p) v r) (r.apply run p v) := passes_callsOf run made _ v r

/-- no handler is called twice or out of its turn, and none is left out unless one before it fails -/
theorem Passes.inTurn (h : Passes run made entries v r calls after) :
    calls.map Call.entry <+: entries ∧ (after.fault = none → calls.map Call.entry = entries) := by
  induction h with
  | nil => exact ⟨List.prefix_rfl, fun _ => rfl⟩
  | cons _ _ ih => exact ⟨List.prefix_cons_inj _ |>.2 ih.1, fun hafter => congrArg _ (ih.2 hafter)⟩
  | fail hfault =>
    refine ⟨List.prefix_cons_inj _ |>.2 (List.nil_prefix), fun hafter => ?_⟩
    rw [hfault] at hafter
    cases hafter

/-- what single calls make of the registry, all calls make of it together -/
theorem Passes.changes [DecidableEq α] [Handler α] (h : Passes run made entries v r calls after)
    (hmade : ∀ h v r, (run h v r).registry = (made h v r).foldl Registry.changed r) :
    after.registry = (calls.flatMap Call.changes).foldl Registry.changed r := by
  induction h with
  | nil => rfl
  | @cons e _ v r _ _ _ _ ih => rw [List.flatMap_cons, List.foldl_append, ← hmade e.handler v r, ih]
  | @fail e _ v r _ _ => rw [List.flatMap_singleton, hmade e.handler v r]

end Calls

/-! ## Scripts -/

/-- what a handler does: it ends with a value or a failure, or carries out an operation and goes on with the answer -/
inductive Script (α V A : Type) where
  | done (v : V)
  | fail (fault : Fault)
  | perform (op : Operation α V A) (rest : Answer V → Script α V A)

section Scripts

variable [DecidableEq α] [Handler α]

/-- a script run on a value; `call` runs the handlers of an application inside it -/
def Script.run (call : A → α → V → Registry α → Progress α V) (v : V) : Script α V A → Registry α → Progress α V
  | .done w, r => ⟨w, r, none⟩
  | .fail fault, r => ⟨v, r, some fault⟩
  | .perform op rest, r => (rest (r.perform call op).2).run call v (r.perform call op).1

/-- the changes that an operation makes, those of the handlers that it calls included -/
def Operation.changes (call : A → α → V → Registry α → Progress α V) (made : A → α → V → Registry α → List (Change α))
    (r : Registry α) : Operation α V A → List (Change α)
  | .add p h n => [.add p h n]
  | .remove p h n => [.remove p h n]
  | .removeAll p n => [.removeAll p n]
  | .apply p v args => (callsOf (call args) (made args) (r.at_ p) v r).flatMap Call.changes
  | .hasAny _ | .has _ _ => []

/-- the changes that a script makes, in the order in which it makes them -/
def Script.changes (call : A → α → V → Registry α → Progress α V) (made : A → α → V → Registry α → List (Change α)) :
    Script α V A → Registry α → List (Change α)
  | .done _, _ | .fail _, _ => []
  | .perform op rest, r =>
    op.changes call made r ++ (rest (r.perform call op).2).changes call made (r.perform call op).1

/-- the failure of an application that is nested too deeply -/
def nestingFault : Fault := .raised "RecursionError" [.text "maximum recursion depth exceeded"]

/-- a handler called with the arguments of an application, with applications nested no deeper than a bound -/
def handle (script : α → A → V → Script α V A) : Nat → A → α → V → Registry α → Progress α V
  | 0, _, _, v, r => ⟨v, r, some nestingFault⟩
  | n + 1, args, h, v, r => (script h args v).run (handle script n) v r

/-- the changes that are made by a call of a handler -/
def madeBy (script : α → A → V → Script α V A) : Nat → A → α → V → Registry α → List (Change α)
  | 0, _, _, _, _ => []
  | n + 1, args, h, v, r => (script h args v).changes (handle script n) (madeBy script n) r

section Handling

variable {call : A → α → V → Registry α → Progress α V} {made : A → α → V → Registry α → List (Change α)}

/-- what single calls make of the registry, an operation makes of it that calls handlers -/
theorem perform_changes (hmade : ∀ args h v r, (call args h v r).registry = (made args h v r).foldl Registry.changed r)
    (r : Registry α) (op : Operation α V A) :
    (r.perform call op).1 = (op.changes call made r).foldl Registry.changed r := by
  cases op with
  | apply p v args => exact (passes_apply (call args) (made args) r p v).changes (hmade args)
  | _ => rfl

theorem script_changes (hmade : ∀ args h v r, (call args h v r).registry = (made args h v r).foldl Registry.changed r)
    (s : Script α V A) (v : V) (r : Registry α) :
    (s.run call v r).registry = (s.changes call made r).foldl Registry.changed r := by
  induction s generalizing r with
  | done _ => rfl
  | fail _ => rfl
  | perform op rest ih => rw [Script.run, Script.changes, List.foldl_append, ← perform_changes hmade, ih]

/-- **A call** leaves the registry with the changes that it made, and with no others. -/
theorem handle_changes (script : α → A → V → Script α V A) (n : Nat) (args : A) (h : α) (v : V) (r : Registry α) :
    (handle script n args h v r).registry = (madeBy script n args h v r).foldl Registry.changed r := by
  induction n generalizing args h v r with
  | zero => rfl
  | succ n ih => exact script_changes ih _ v r

end Handling

/-- **An application runs on a snapshot.** Whatever the handlers do to the registrations, by themselves or by
applications inside them, exactly the handlers are called that were registered at the point when it began: by priority
and in the order of their registration, once for each of them, with the same arguments, on the value and the registry
that the one before left. Only a handler that fails keeps those behind it from being called. The registry then is the
one of the beginning with the changes of all calls, in the order in which they were made; and so is its log. -/
theorem apply_snapshot (script : α → A → V → Script α V A) (n : Nat) {r : Registry α} {log : Log α} (h : Refines r log)
    (p : Point) (v : V) (args : A) :
    ∃ calls : List (Call α V),
      let after := r.apply (handle script n args) p v
      Passes (handle script n args) (madeBy script n args) (inOrder (log p)) v r calls after ∧
      calls.map Call.entry <+: inOrder (log p) ∧
      (after.fault = none → calls.map Call.entry = inOrder (log p)) ∧
      after.registry = (calls.flatMap Call.changes).foldl Registry.changed r ∧
      Refines after.registry ((calls.flatMap Call.changes).foldl Log.changed log) := by
  have hpasses := passes_apply (handle script n args) (madeBy script n args) r p v
  have hregistry := hpasses.changes (handle_changes script n args)
  rw [(h p).eq_inOrder] at hpasses
  obtain ⟨hfirst, hall⟩ := hpasses.inTurn
  refine ⟨_, hpasses, hfirst, hall, ?_, ?_⟩
  · rw [hregistry, (h p).eq_inOrder]
  · rw [hregistry, (h p).eq_inOrder]
    exact h.changed _

end Scripts

/-! ## Filters -/

/-- a script that ends with the outcome of a step -/
def Script.ending : Except Fault V → Script α V A
  | .ok v => .done v
  | .error fault => .fail fault

/-- a script that goes on at a point, if there is one of that name -/
def Script.atPoint (point : Json) (rest : Point → Script α V A) : Script α V A :=
  match Point.ofJson point with
  | .ok p => rest p
  | .error fault => .fail fault

/-- what a filter does, as a script; the answers that do not fit an operation are never given -/
def Observer.scripts (actionOf : String → Action) (name : String) (extras : List Extra) (v : Value) :
    Script String Value (List Extra) :=
  match actionOf name with
  | .keep => .done v
  | .drop => .done (.plain .null)
  | .constant w => .done (.plain w)
  | .append w => .ending (v.plus w)
  | .upper => .ending v.upper
  | .putEntry key w => .ending (v.putEntry key w)
  | .setAttribute key w => .ending (v.setAttribute key w)
  | .replace tag => .ending (v.replace tag)
  | .dropTag tag => .ending (v.dropTag tag)
  | .countExtras => .done (.plain (.text (v.shown ++ s!"[{extras.length}]")))
  | .joinExtras => .ending do
      let texts ← joinExtras 0 extras
      return .plain (.text (v.shown ++ "(" ++ Text.joinWith "," texts ++ ")"))
  | .applyOther point => .atPoint point fun p => .perform (.apply p (.plain (.text "k")) []) fun
    | .value _ (some fault) => .fail fault
    | .value (.plain w) none => .ending (v.plus w)
    | .value (.node ..) none => .fail (.type "unsupported operand")
    | _ => .done v
  | .register point filter => .atPoint point fun p => .perform (.add p filter usualPriority) fun _ =>
      .ending (v.plus (.text "+"))
  | .unregister point filter => .atPoint point fun p => .perform (.remove p filter usualPriority) fun
    | .flag was => .ending (v.plus (.text (if was then "True" else "False")))
    | _ => .done v
  | .fail w => .fail (.raised "ValueError" [w])
  | .custom f => .ending (f extras v)

theorem run_ending (call : List Extra → String → Value → Registry String → Progress String Value) (v : Value)
    (r : Registry String) (x : Except Fault Value) :
    (Script.ending x).run call v r = Observer.settle v r x := by
  cases x <;> rfl

/-- **The filters of an observer** are scripts. -/
theorem run_eq_handle (actionOf : String → Action) (extras : List Extra) (n : Nat) :
    Observer.run actionOf extras n = handle (Observer.scripts actionOf) n extras := by
  induction n generalizing extras with
  | zero => rfl
  | succ n ih =>
    funext name v r
    rw [Observer.run, handle, Observer.scripts]
    cases actionOf name with
    | applyOther point =>
      simp only [Script.atPoint, ih]
      cases Point.ofJson point with
      | error fault => rfl
      | ok p =>
        simp only [Script.run, Registry.perform]
        generalize r.apply (handle (Observer.scripts actionOf) n []) p (Value.plain (.text "k")) = inner
        obtain ⟨w, registry, _ | fault⟩ := inner
        · cases w with
          | plain w => exact (run_ending _ _ _ _).symm
          | node _ _ => rfl
        · rfl
    | register point filter =>
      simp only [Script.atPoint]
      cases Point.ofJson point with
      | error fault => rfl
      | ok p => exact (run_ending _ _ _ _).symm
    | unregister point filter =>
      simp only [Script.atPoint]
      cases Point.ofJson point with
      | error fault => rfl
      | ok p => exact (run_ending _ _ _ _).symm
    | append _ => exact (run_ending _ _ _ _).symm
    | upper => exact (run_ending _ _ _ _).symm
    | putEntry _ _ => exact (run_ending _ _ _ _).symm
    | setAttribute _ _ => exact (run_ending _ _ _ _).symm
    | replace _ => exact (run_ending _ _ _ _).symm
    | dropTag _ => exact (run_ending _ _ _ _).symm
    | joinExtras => exact (run_ending _ _ _ _).symm
    | custom _ => exact (run_ending _ _ _ _).symm
    | _ => rfl

/-- a filter that takes itself away, and one that registers another at its own point -/
def busyFilters : List Filter :=
  [⟨"quit", .unregister (.text "custom_css") "quit"⟩, ⟨"grow", .register (.text "custom_css") "late"⟩,
    ⟨"late", .append (.text "!")⟩]

/-- the registrations of these filters -/
def busyChanges : List (Change String) := [.add .customCss "grow" 10, .add .customCss "quit" 10]

theorem apply_snapshot_busy :
    let o : Observer := ⟨busyFilters, busyChanges.foldl Registry.changed Registry.empty⟩
    Refines o.registry (busyChanges.foldl Log.changed Log.empty) ∧
    ∃ calls : List (Call String Value),
      let after := o.apply .customCss (.plain (.text "x")) []
      calls.map (fun c => c.entry.handler) = ["grow", "quit"] ∧
      after.registry = (calls.flatMap Call.changes).foldl Registry.changed o.registry := by
  intro o
  have hrefines : Refines o.registry (busyChanges.foldl Log.changed Log.empty) := refines_empty.changed busyChanges
  obtain ⟨calls, -, -, hall, hregistry, -⟩ := apply_snapshot (Observer.scripts o.action) Observer.maxNesting hrefines
    .customCss (.plain (.text "x")) []
  rw [← run_eq_handle] at hall hregistry
  refine ⟨hrefines, calls, ?_, hregistry⟩
  have hentries := hall (by rfl)
  rw [← (hrefines .customCss).eq_inOrder] at hentries
  have hhandlers := congrArg (List.map Registration.handler) hentries
  rw [List.map_map] at hhandlers
  exact hhandlers

end AmpArticle.Extension
