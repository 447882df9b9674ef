import AmpArticle.Article.Basic
import AmpArticle.Css.ClassNames
import AmpArticle.Extension.Filter
import AmpArticle.Page.Feature
import AmpArticle.Properties
import AmpArticle.Warning

/-!
The state of a single conversion and its steps. What a page consists of is built as nodes; beside them a conversion
gathers rules, warnings and used features. A divider follows each part of a page. Its class tells what it follows and,
once the next divider is made, what comes next: `settle` writes that second name into the finished tree.
-/

namespace AmpArticle.Page

open Markup (Element Node Mark)

/-- what a conversion is given and never changes -/
structure Setting where
  article : Article
  properties : Properties
  resolver : Media.Resolver
  deriving Inhabited

/-- what a conversion has gathered so far -/
structure State where
  classPrefix : String
  rules : Css.RuleSet
  warnings : List Warning
  features : List Feature
  observer : Extension.Observer
  /-- for each divider the class name that it gives to the divider before it -/
  dividers : List String
  /-- how often each numbered class name was used -/
  classCounts : List (String × Nat)
  log : List Media.LogLine
  deriving Inhabited

namespace State

/-- nothing gathered -/
def start (classPrefix : String) (observer : Extension.Observer) : State :=
  ⟨classPrefix, Css.RuleSet.empty classPrefix, [], [], observer, [], [], []⟩

/-- the class attribute of a divider completed by the name that its successor gives it -/
def completeDivider (s : State) (number : Nat) (e : Element) : Element :=
  match s.dividers[number + 1]? with
  | some name => e.put "class" ((e.attribute? "class").getD "None" ++ " " ++ name)
  | none => e

mutual
/-- the tree with the class attributes of all dividers completed -/
def settle (s : State) : Node → Node
  | .text content => .text content
  | .comment content => .comment content
  | .element tag mark attributes children =>
    let e : Element := ⟨tag, mark, attributes, settleAll s children⟩
    match mark with
    | some (.divider number) => (s.completeDivider number e).toNode
    | _ => e.toNode

/-- `settle` on each node -/
def settleAll (s : State) : List Node → List Node
  | [] => []
  | n :: rest => settle s n :: settleAll s rest
end

end State

/-- a step of a conversion; one that fails leaves behind what it had gathered -/
abbrev Rendering (α : Type) := ExceptT Fault (StateM State) α

namespace Rendering

/-- adds log lines -/
def note (lines : List Media.LogLine) : Rendering Unit := modify fun s => { s with log := s.log ++ lines }

/-- adds a warning, which is logged too -/
def warn (w : Warning) : Rendering Unit :=
  modify fun s => { s with warnings := s.warnings ++ [w], log := s.log ++ [⟨.warning, w.message⟩] }

/-- adds a warning about an item -/
def warnItem (message : String) (item : Item) (cause : Option Fault) : Rendering Unit :=
  warn ⟨message, some item.toDatum, cause⟩

/-- adds a warning about a text -/
def warnText (message text : String) (cause : Option Fault) : Rendering Unit :=
  warn (.about message (.text text) cause)

/-- notes that a feature is used -/
def useFeature (f : Feature) : Rendering Unit :=
  modify fun s => { s with features := if s.features.contains f then s.features else s.features ++ [f] }

/-- sets a value under a selector -/
def declare (selector property value : String) : Rendering Unit :=
  modify fun s => { s with rules := s.rules.set selector property value }

/-- class names as a class attribute -/
def classAttribute (names : Css.ClassNames) : Rendering String := do
  match names.classAttribute (← get).classPrefix with
  | .ok text => return text
  | .error fault => throw fault

/-- a class name with the number of its uses, from one -/
def uniqueClass (name : String) : Rendering String := do
  let count := (lookup? name (← get).classCounts).getD 0 + 1
  modify fun s => { s with classCounts := insertEntry name count s.classCounts }
  return name ++ "-" ++ toString count

/-- the element with attributes set, the class attribute among them when there are class names -/
def dress (e : Element) (names : Option Css.ClassNames) (attributes : List (String × String)) :
    Rendering (Element × Option Fault) := do
  match names with
  | none => return e.setAll attributes
  | some names =>
    if names.isPresent then
      match names.classAttribute (← get).classPrefix with
      | .ok text => return e.setAll (("class", text) :: attributes)
      | .error fault => return (e, some fault)
    else return e.setAll attributes

/-- a new element -/
def create (tag : String) (names : Option Css.ClassNames) (attributes : List (String × String)) :
    Rendering Element := do
  let e ← liftM (Element.create tag)
  match ← dress e names attributes with
  | (e, none) => return e
  | (_, some fault) => throw fault

/-- a new element with one class -/
def createNamed (tag name : String) : Rendering Element := create tag (some (.name name)) []

/-- an element with markup added at its end -/
def withMarkup (e : Element) (markup : String) : Rendering Element := liftM (e.appendMarkup markup)

/-- the divider that follows a part of the given kind -/
def divider (kind : String) : Rendering Node := do
  let number := (← get).dividers.length
  let e ← create "div" (some (.many [.name (← get).rules.spacing, .name ("after-" ++ kind)])) []
  let before ← classAttribute (.name ("before-" ++ kind))
  modify fun s => { s with dividers := s.dividers ++ [before] }
  return { e with mark := some (.divider number) }.toNode

/-- the size of media at an address -/
def resolve (c : Setting) (url : String) (kind : Media.Kind) : Rendering Media.Size := do
  let found ← liftM (c.resolver.resolve url kind)
  note found.log
  return found.size

/-- the size of media at an address, the usual one after a warning when it is not positive -/
def dimensions (c : Setting) (url : String) (kind : Media.Kind) : Rendering Media.Size := do
  let size ← resolve c url kind
  if size.width ≤ 0 ∨ size.height ≤ 0 then
    warnText s!"Invalid dimensions {size.width}x{size.height} for {url}, using defaults." url none
    return ⟨Media.defaultWidth, Media.defaultHeight⟩
  return size

/-- a value passed through the filters at a point: how far it came, and the fault that stopped it. The last extra
argument is the conversion itself -/
def filtered (p : Extension.Point) (v : Extension.Value) (extras : List Extension.Extra) :
    Rendering (Extension.Value × Option Fault) := do
  let s ← get
  let count := (s.observer.registry.at_ p).length
  let done := s.observer.apply p v (extras ++ [.conversion s.log])
  set { s with observer := { s.observer with registry := done.registry } }
  if count ≠ 0 && done.fault.isNone then note [⟨.debug, s!"Applied {count} filter(s) on {p.name}"⟩]
  return (done.value, done.fault)

/-- a value passed through the filters at a point -/
def filter (p : Extension.Point) (v : Extension.Value) (extras : List Extension.Extra) :
    Rendering Extension.Value := do
  match ← filtered p v extras with
  | (v, none) => return v
  | (_, some fault) => throw fault

end Rendering

/-- a node that stands in a page, with the text behind it that goes where the node goes -/
structure Built where
  node : Node
  tail : List Node
  deriving Inhabited

namespace Built

/-- an element without text behind it -/
def ofElement (e : Element) : Built := ⟨e.toNode, []⟩

/-- the nodes in order -/
def nodes (b : Built) : List Node := b.node :: b.tail

/-- the node passed through the filters at a point: the same one keeps the text behind it, another one does not, and
none may be left -/
def filter (b : Built) (p : Extension.Point) (extras : List Extension.Extra) : Rendering (Option Built) := do
  match ← Rendering.filter p (.node b.node true) extras with
  | .node n true => return some ⟨n, b.tail⟩
  | .node n false => return some ⟨n, []⟩
  | .plain .null => return none
  | .plain v =>
    throw (.type s!"Argument 'new_element' has incorrect type (expected lxml.etree._Element, got {v.kindName})")

end Built

end AmpArticle.Page
