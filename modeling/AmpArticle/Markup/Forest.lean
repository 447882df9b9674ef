import AmpArticle.Markup.Node

/-!
Trees under construction. Every element put into a forest directly bears a number, by which it is found again wherever
it has been moved; what markup brings along bears none. The text behind an element goes where the element goes.
-/

namespace AmpArticle.Markup

/-- trees that are not part of one another, and how many numbers are given away -/
structure Forest where
  trees : List Node
  count : Nat
  deriving Inhabited

namespace Forest

/-- whether a node bears a number -/
def bears (number : Nat) : Node → Bool
  | .element _ mark _ _ => mark = some (.label number)
  | _ => false

mutual
/-- the tree with an element and the text behind it replaced; the root stays -/
def swapBelow (number : Nat) (new : List Node) : Node → Node
  | .text content => .text content
  | .comment content => .comment content
  | .element tag mark attributes children => .element tag mark attributes (swapIn number new children)

/-- the nodes with an element and the text behind it replaced -/
def swapIn (number : Nat) (new : List Node) : List Node → List Node
  | [] => []
  | n :: rest =>
    if bears number n then new ++ Node.dropText rest else swapBelow number new n :: swapIn number new rest
end

mutual
/-- the text behind an element inside a tree -/
def textBehind? (number : Nat) : Node → Option (List Node)
  | .text _ => none
  | .comment _ => none
  | .element _ _ _ children => textBehindIn? number children

/-- the text behind an element among the nodes or below -/
def textBehindIn? (number : Nat) : List Node → Option (List Node)
  | [] => none
  | n :: rest =>
    if bears number n then some (rest.takeWhile Node.isText)
    else
      match textBehind? number n with
      | some behind => some behind
      | none => textBehindIn? number rest
end

/-- no trees -/
def empty : Forest := ⟨[], 0⟩

/-- the element with a number -/
def find? (f : Forest) (number : Nat) : Option Element := Node.findMarkedIn? (.label number) f.trees

/-- the text behind an element -/
def behind (f : Forest) (number : Nat) : List Node := (f.trees.findSome? (textBehind? number)).getD []

/-- whether an element stands inside another one -/
def isBelow (f : Forest) (number : Nat) : Bool := (f.trees.findSome? (textBehind? number)).isSome

/-- a new tree, and the number of its root -/
def plant (f : Forest) (e : Element) : Forest × Nat :=
  (⟨f.trees ++ [{ e with mark := some (.label f.count) }.toNode], f.count + 1⟩, f.count)

/-- an element replaced, where it stands, by what `change` makes of it -/
def modify (f : Forest) (number : Nat) (change : Element → Element) : Forest :=
  { f with trees := Node.mapMarkedAll (.label number) change f.trees }

/-- nodes put at the end of an element -/
def append (f : Forest) (number : Nat) (nodes : List Node) : Forest := f.modify number fun e => e.append nodes

/-- a new element at the end of another one, and its number -/
def graft (f : Forest) (parent : Nat) (e : Element) : Forest × Nat :=
  ({ f.append parent [{ e with mark := some (.label f.count) }.toNode] with count := f.count + 1 }, f.count)

/-- an element taken out with the text behind it, to be a tree of its own without that text; nodes take its place -/
def cut (f : Forest) (number : Nat) (new : List Node) : Forest :=
  match f.find? number with
  | some e =>
    if f.isBelow number then { f with trees := f.trees.map (swapBelow number new) ++ [e.toNode] } else f
  | none => f

/-- an element replaced by a new one, and the number of that -/
def replace (f : Forest) (number : Nat) (e : Element) : Forest × Nat :=
  let new := { e with mark := some (.label f.count) }.toNode
  if f.isBelow number then ({ f.cut number [new] with count := f.count + 1 }, f.count) else f.plant e

end Forest

end AmpArticle.Markup
