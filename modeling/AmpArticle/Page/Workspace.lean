import AmpArticle.Markup.Forest
import AmpArticle.Page.Rendering
import AmpArticle.Page.Slot

/-!
Building a page by hand, one step at a time, with elements known by names of the builder's choice. A step that fails
leaves behind what it had done until then: an element that got only part of its attributes stays where it was put.
-/

namespace AmpArticle.Page

open Markup (Element Node Forest)

/-- a conversion with elements under construction; a name stands for an element or for nothing -/
structure Workspace where
  state : State
  forest : Forest
  names : List (String × Option Nat)
  slots : List (String × Slot)
  deriving Inhabited

/-- a step of building by hand, which may fail -/
abbrev Working (α : Type) := ExceptT Fault (StateM Workspace) α

namespace Workspace

/-- a workspace with one element -/
def start (state : State) (name : String) (root : Element) : Workspace :=
  let (forest, number) := Forest.empty.plant root
  ⟨state, forest, [(name, some number)], []⟩

/-- the slot of a name -/
def slot (w : Workspace) (name : String) : Slot := (lookup? name w.slots).getD (Slot.ofName name)

/-- a name for an element, or for nothing -/
def call (w : Workspace) (name : String) (number : Option Nat) : Workspace :=
  { w with names := insertEntry name number w.names }

/-- the nodes with their dividers completed -/
def shown (w : Workspace) (nodes : List Node) : List Node := State.settleAll w.state nodes

end Workspace

namespace Working

/-- a step of a conversion as a step of building -/
def rendering {α : Type} (step : Rendering α) : Working α := do
  let w ← get
  let (result, state) := step.run.run w.state
  set { w with state := state }
  liftM result

/-- what a name stands for -/
def named (name : String) : Working (Option Nat) := do
  match lookup? name (← get).names with
  | some number => return number
  | none => throw (.key (Text.quoted name))

/-- the fault of asking nothing for a member of an element -/
def absent (member : String) : Fault := .member s!"'NoneType' object has no attribute '{member}'"

/-- the number of the element that a name stands for -/
def element (name member : String) : Working Nat := do
  match ← named name with
  | some number => return number
  | none => throw (absent member)

/-- an element and the text behind it, with all dividers completed -/
def nodes (number : Nat) : Working (List Node) := do
  let w ← get
  match w.forest.find? number with
  | some e => return w.shown (e.toNode :: w.forest.behind number)
  | none => return []

/-- a new element, inside another one when there is one -/
def put (parent : Option Nat) (e : Element) : Working Nat := do
  let w ← get
  let (forest, number) := match parent with
    | some parent => w.forest.graft parent e
    | none => w.forest.plant e
  set { w with forest := forest }
  return number

/-- a new element with class names and attributes, known by a name -/
def create (name : String) (parent : Option String) (tag : String) (names : Option Css.ClassNames)
    (attributes : List (String × String)) : Working (List Node) := do
  let parent ← match parent with
    | some parent => named parent
    | none => pure none
  let e ← liftM (Element.create tag)
  let (e, fault) ← rendering (Rendering.dress e names attributes)
  let number ← put parent e
  match fault with
  | some fault => throw fault
  | none =>
    modify fun w => w.call name (some number)
    nodes number

/-- an element without the text at its end -/
def withoutEnd (e : Element) : Element := { e with children := Node.dropTrailingText e.children }

/-- markup added to the element of a name. Text that is refused has taken the place of the text before it, which is
gone then -/
def addMarkup (name markup : String) : Working (List Node) := do
  let number ← element name "append"
  let change (e : Element) : Working Unit := modify fun w => { w with forest := w.forest.modify number fun _ => e }
  match (← get).forest.find? number with
  | none => return []
  | some e =>
    match e.appendMarkup markup with
    | .ok e => change e
    | .error .forbiddenCharacter => do
      change (withoutEnd e)
      throw .forbiddenCharacter
    | .error fault => throw fault
    nodes number

/-- a divider added to the element of a name -/
def addDivider (name kind : String) : Working (List Node) := do
  let parent ← named name
  let n ← tryCatch (rendering (Rendering.divider kind)) fun fault => do
    let _ ← put parent (Element.bare "div")
    throw fault
  match parent with
  | some parent => modify fun w => { w with forest := w.forest.append parent [n] }
  | none => pure ()
  return (← get).shown [n]

/-- an element put into a slot -/
def fill (slotName name : String) : Working String := do
  let number ← element name "tag"
  let w ← get
  match w.forest.find? number with
  | none => throw (absent "tag")
  | some e =>
    let filled ← liftM ((w.slot slotName).fill e)
    set { w with slots := insertEntry slotName filled w.slots }
    return e.tag

/-- what the filters left of an element put into its place; the name stands for that from now on -/
def settleFiltered (name : String) (number : Nat) (v : Extension.Value) : Working (Option (List Node)) := do
  let w ← get
  match v with
  | .node n same =>
    match n.element?, same with
    | some e, true =>
      set { w with forest := w.forest.modify number fun _ => e }
      return some (← nodes number)
    | some e, false =>
      let (forest, new) := w.forest.replace number e
      set ({ w with forest := forest }.call name (some new))
      return some (← nodes new)
    | none, _ => return none
  | .plain v =>
    if v matches .null then
      set ({ w with forest := w.forest.cut number [] }.call name none)
      return none
    else if w.forest.isBelow number then
      throw (.type s!"Argument 'new_element' has incorrect type (expected lxml.etree._Element, got {v.kindName})")
    else
      set (w.call name none)
      throw (.type s!"Type '{v.kindName}' cannot be serialized.")

/-- the element of a name passed through the filters at a point -/
def filter (point : Json) (name : String) (extras : List Extension.Extra) : Working (Option (List Node)) := do
  match ← named name with
  | none => throw (absent "getparent")
  | some number =>
    let p ← liftM (Extension.Point.ofJson point)
    match (← get).forest.find? number with
    | none => return none
    | some e =>
      let (v, fault) ← rendering (Rendering.filtered p (.node e.toNode true) extras)
      match fault, v with
      | none, v => settleFiltered name number v
      | some fault, .node n true => do
        let _ ← settleFiltered name number (.node n true)
        throw fault
      | some fault, _ => throw fault

end Working

end AmpArticle.Page
