import AmpArticle.Extension.Point

/-!
Registrations of handlers at extension points. At a point they stand in the order in which they run: by priority, the
lowest first, and among equals the earlier registration first. What happens at one point concerns no other.

A handler is taken away when it is equal to the one that is named, by an equality that handlers bring along; but it is
found only when it is the very same. Handlers that are made anew at each mention, as methods of an object are, may be
equal without being the same.
-/

namespace AmpArticle.Extension

/-- the priority of a registration that names none -/
def usualPriority : Int := 10

/-- handlers with an equality of their own, by which each is equal to itself; `=` says that they are the very same -/
class Handler (α : Type) where
  equal : α → α → Bool
  equal_self : ∀ h, equal h h = true

/-- handlers known by names are equal when their names are -/
instance : Handler String where
  equal a b := a == b
  equal_self _ := beq_self_eq_true _

/-- a handler with its priority -/
structure Registration (α : Type) where
  priority : Int
  handler : α
  deriving DecidableEq, Inhabited

/-- whether a registration is of a priority and of a handler equal to one -/
def Registration.isOf {α : Type} [Handler α] (handler : α) (priority : Int) (e : Registration α) : Bool :=
  e.priority = priority && Handler.equal e.handler handler

/-- the registrations at every point -/
structure Registry (α : Type) where
  at_ : Point → List (Registration α)
  deriving Inhabited

namespace Registry

variable {α : Type}

/-- nothing registered -/
def empty : Registry α := ⟨fun _ => []⟩

/-- the registry with the registrations at one point replaced -/
def put (r : Registry α) (p : Point) (entries : List (Registration α)) : Registry α :=
  ⟨fun q => if q = p then entries else r.at_ q⟩

/-- an entry put behind all entries whose priority is not higher -/
def insertInOrder (e : Registration α) : List (Registration α) → List (Registration α)
  | [] => [e]
  | x :: rest => if e.priority < x.priority then e :: x :: rest else x :: insertInOrder e rest

/-- a handler registered -/
def add (r : Registry α) (p : Point) (handler : α) (priority : Int) : Registry α :=
  r.put p (insertInOrder ⟨priority, handler⟩ (r.at_ p))

/-- the first registration of an equal handler at a priority taken away; whether there was one -/
def remove [Handler α] (r : Registry α) (p : Point) (handler : α) (priority : Int) : Registry α × Bool :=
  (r.put p ((r.at_ p).eraseP (Registration.isOf handler priority)),
    (r.at_ p).any (Registration.isOf handler priority))

/-- all registrations at a point taken away, or those of one priority -/
def removeAll (r : Registry α) (p : Point) (priority : Option Int) : Registry α :=
  r.put p ((r.at_ p).filter fun e => priority.any fun n => n ≠ e.priority)

/-- whether anything is registered at a point -/
def hasAny (r : Registry α) (p : Point) : Bool := !(r.at_ p).isEmpty

/-- whether the very handler is registered at a point -/
def has [DecidableEq α] (r : Registry α) (p : Point) (handler : α) : Bool :=
  (r.at_ p).any fun e => e.handler = handler

end Registry

/-- how far an application has come: the value, the registrations as handlers left them, and why it stopped early -/
structure Progress (α V : Type) where
  value : V
  registry : Registry α
  fault : Option Fault

namespace Progress

variable {α V : Type}

/-- one handler run, unless the application has stopped -/
def step (run : α → V → Registry α → Progress α V) (s : Progress α V) (e : Registration α) : Progress α V :=
  match s.fault with
  | some _ => s
  | none => run e.handler s.value s.registry

end Progress

/-- a value passed through the handlers that are registered at a point when this begins -/
def Registry.apply {α V : Type} (r : Registry α) (run : α → V → Registry α → Progress α V) (p : Point) (v : V) :
    Progress α V :=
  (r.at_ p).foldl (Progress.step run) ⟨v, r, none⟩

/-- an operation on registrations: a change, an application or a question -/
inductive Operation (α V A : Type) where
  | add (p : Point) (handler : α) (priority : Int)
  | remove (p : Point) (handler : α) (priority : Int)
  | removeAll (p : Point) (priority : Option Int)
  | apply (p : Point) (value : V) (args : A)
  | hasAny (p : Point)
  | has (p : Point) (handler : α)

/-- the point that an operation is about -/
def Operation.point {α V A : Type} : Operation α V A → Point
  | add p _ _ | remove p _ _ | removeAll p _ | apply p _ _ | hasAny p | has p _ => p

/-- what an operation answers: nothing, yes or no, or how far a value has come -/
inductive Answer (V : Type) where
  | done
  | flag (holds : Bool)
  | value (v : V) (fault : Option Fault)
  deriving Inhabited

/-- an operation carried out; `run` is what a handler does to a value, given the arguments of the application -/
def Registry.perform {α V A : Type} [DecidableEq α] [Handler α] (run : A → α → V → Registry α → Progress α V)
    (r : Registry α) : Operation α V A → Registry α × Answer V
  | .add p handler priority => (r.add p handler priority, .done)
  | .remove p handler priority =>
    let (r, was) := r.remove p handler priority
    (r, .flag was)
  | .removeAll p priority => (r.removeAll p priority, .done)
  | .apply p v args =>
    let done := r.apply (run args) p v
    (done.registry, .value done.value done.fault)
  | .hasAny p => (r, .flag (r.hasAny p))
  | .has p handler => (r, .flag (r.has p handler))

end AmpArticle.Extension
