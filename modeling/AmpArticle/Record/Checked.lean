import AmpArticle.Fault

/-!
Values that may be wrong in several places at once. Parts are checked independently of each other, and what is wrong
with all of them is reported together, in order.
-/

namespace AmpArticle

/-- a good value, or everything that is wrong with it -/
inductive Checked (α : Type) where
  | good (value : α)
  | bad (issues : List Issue)
  deriving Inhabited

namespace Checked

/-- two parts joined; the issues of both are kept -/
def join {α β : Type} (f : Checked (α → β)) (x : Checked α) : Checked β :=
  match f, x with
  | good f, good x => good (f x)
  | good _, bad issues => bad issues
  | bad issues, good _ => bad issues
  | bad first, bad second => bad (first ++ second)

/-- a good value changed -/
def map {α β : Type} (f : α → β) : Checked α → Checked β
  | good x => good (f x)
  | bad issues => bad issues

instance : Functor Checked where
  map := map

instance : Applicative Checked where
  pure := good
  seq f x := join f (x ())

/-- one thing wrong with the value itself -/
def wrong {α : Type} (kind : IssueKind) : Checked α := bad [⟨[], kind⟩]

/-- the value found under a step, which leads the paths of its issues -/
def under {α : Type} (step : String) : Checked α → Checked α
  | good x => good x
  | bad issues => bad (issues.map fun i => { i with path := step :: i.path })

/-- every part of a list checked, each under its position -/
def each {α β : Type} (check : α → Checked β) : Nat → List α → Checked (List β)
  | _, [] => good []
  | i, x :: rest => join (map List.cons (under (toString i) (check x))) (each check (i + 1) rest)

/-- every value of a table checked, each under its key -/
def eachEntry {α β : Type} (check : α → Checked β) : List (String × α) → Checked (List (String × β))
  | [] => good []
  | (key, x) :: rest =>
    join (map (fun y rest => (key, y) :: rest) (under key (check x))) (eachEntry check rest)

/-- the good value, or the fault of a record that is not valid -/
def toExcept {α : Type} (record : String) : Checked α → Except Fault α
  | good x => .ok x
  | bad issues => .error (.invalid record issues)

end Checked

end AmpArticle
