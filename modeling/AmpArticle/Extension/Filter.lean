import AmpArticle.Article.Item
import AmpArticle.Extension.Registry
import AmpArticle.Markup.Name
import AmpArticle.Media.Sizes
import AmpArticle.Number.Quantity
import AmpArticle.Text.Letters

/-!
Filters: what a registered handler does to the value that reaches its point. A value is plain, or a node of the
document; `same` says that a node is still the one that came in, perhaps with other attributes.
-/

namespace AmpArticle.Extension

/-- a value that passes through filters -/
inductive Value where
  | plain (v : Json)
  | node (n : Markup.Node) (same : Bool)
  deriving Inhabited

/-- an extra argument: a plain value, an item of the article, the conversion as its log shows it so far, or something
of a named kind -/
inductive Extra where
  | plain (v : Json)
  | item (i : Item)
  | conversion (log : List Media.LogLine)
  | thing (kindName : String)
  deriving Inhabited

/-- the name of the kind of an extra argument -/
def Extra.kindName : Extra → String
  | plain v => v.kindName
  | item i => i.recordName
  | conversion _ => "RenderContext"
  | thing kindName => kindName

/-- what a filter does; a custom one is any function of the extra arguments and the value -/
inductive Action where
  | keep
  | drop
  | constant (v : Json)
  | append (v : Json)
  | upper
  | putEntry (key : String) (v : Json)
  | setAttribute (name value : Json)
  | replace (tag : String)
  | dropTag (tag : String)
  | countExtras
  | joinExtras
  | applyOther (point : Json)
  | register (point : Json) (filter : String)
  | unregister (point : Json) (filter : String)
  | fail (v : Json)
  | custom (f : List Extra → Value → Except Fault Value)
  deriving Inhabited

/-- a filter: its name and what it does -/
structure Filter where
  name : String
  action : Action
  deriving Inhabited

namespace Value

/-- the name of the kind of a value -/
def kindName : Value → String
  | plain v => v.kindName
  | node (.comment _) _ => "HtmlComment"
  | node _ _ => "lxml.etree._Element"

/-- the value as running text -/
def shown : Value → String
  | plain v => v.plain
  | node n _ => (n.tag?).getD "comment"

/-- the fault of asking a value for what its kind lacks -/
def lacks (v : Value) (member : String) : Fault :=
  .member s!"'{v.kindName}' object has no attribute '{member}'"

/-- a number as a quantity -/
def quantity? : Json → Option Quantity
  | .bool b => some (.int (if b then 1 else 0))
  | .int n => some (.int n)
  | .real x => some (.real x)
  | _ => none

/-- the sum of two numbers -/
def addQuantities : Quantity → Quantity → Except Fault Json
  | .int a, .int b => .ok (.int (a + b))
  | a, b => do return .real ((← a.toDouble).add (← b.toDouble))

/-- two values joined: texts and lists are put behind each other, numbers are added -/
def plus (v : Value) (w : Json) : Except Fault Value :=
  match v with
  | .plain (.text s) =>
    match w with
    | .text t => .ok (.plain (.text (s ++ t)))
    | w => .error (.type s!"can only concatenate str (not \"{w.kindName}\") to str")
  | .plain (.list items) =>
    match w with
    | .list more => .ok (.plain (.list (items ++ more)))
    | w => .error (.type s!"can only concatenate list (not \"{w.kindName}\") to list")
  | .plain a =>
    match quantity? a, quantity? w with
    | some x, some y => (addQuantities x y).map .plain
    | _, _ => .error (.type s!"unsupported operand type(s) for +: '{v.kindName}' and '{w.kindName}'")
  | .node .. => .error (.type s!"unsupported operand type(s) for +: '{v.kindName}' and '{w.kindName}'")

/-- the value in capitals -/
def upper (v : Value) : Except Fault Value :=
  match v with
  | .plain (.text s) => .ok (.plain (.text (Text.upper s)))
  | v => .error (v.lacks "upper")

/-- the object with an entry set -/
def putEntry (v : Value) (key : String) (w : Json) : Except Fault Value :=
  match v with
  | .plain (.object entries) => .ok (.plain (.object (insertEntry key w entries)))
  | v => .error (.type s!"'{v.kindName}' object is not iterable")

/-- a text for an attribute -/
def attributeText : Json → Except Fault String
  | .text s => .ok s
  | v => .error (.type s!"Argument must be bytes or unicode, got '{v.kindName}'")

/-- the element with an attribute set; it stays the same element -/
def setAttribute (v : Value) (name value : Json) : Except Fault Value :=
  match v with
  | .node (.element tag mark attributes children) same => do
    let e : Markup.Element := ⟨tag, mark, attributes, children⟩
    let e ← e.set (← attributeText name) (← attributeText value)
    return .node e.toNode same
  | .node _ _ => .error (.type "this element does not have children or attributes")
  | v => .error (v.lacks "set")

/-- a new element that holds the tag of the old one -/
def replace (v : Value) (tag : String) : Except Fault Value :=
  match v with
  | .node n _ => do
    let e ← Markup.Element.create tag
    let e ← match n.tag? with
      | some old => e.setText old
      | none => .error (.type "Argument must be bytes or unicode, got 'function'")
    return .node e.toNode false
  | v => .error (v.lacks "tag")

/-- nothing if the element has a tag -/
def dropTag (v : Value) (tag : String) : Except Fault Value :=
  match v with
  | .node n same => .ok (if n.tag? = some tag then .plain .null else .node n same)
  | v => .error (v.lacks "tag")

end Value

/-- extra arguments joined by commas; only texts can be -/
def joinExtras : Nat → List Extra → Except Fault (List String)
  | _, [] => .ok []
  | i, .plain (.text s) :: rest => do return s :: (← joinExtras (i + 1) rest)
  | i, e :: _ => .error (.type s!"sequence item {i}: expected str instance, {e.kindName} found")

/-- registrations of filters by their names, with the filters that the names stand for -/
structure Observer where
  filters : List Filter
  registry : Registry String
  deriving Inhabited

namespace Observer

/-- no filters -/
def empty : Observer := ⟨[], Registry.empty⟩

/-- what the filter of a name does -/
def action (o : Observer) (name : String) : Action :=
  ((o.filters.find? fun f => f.name == name).map Filter.action).getD .keep

/-- the outcome of a step that changes no registration -/
def settle (v : Value) (registry : Registry String) : Except Fault Value → Progress String Value
  | .ok w => ⟨w, registry, none⟩
  | .error fault => ⟨v, registry, some fault⟩

/-- how deeply applications may be nested -/
def maxNesting : Nat := 200

/-- what the filter of a name makes of a value; `fuel` bounds nested applications -/
def run (actionOf : String → Action) (extras : List Extra) :
    Nat → String → Value → Registry String → Progress String Value
  | 0, _, v, registry => ⟨v, registry, some (.raised "RecursionError" [.text "maximum recursion depth exceeded"])⟩
  | fuel + 1, name, v, registry =>
    match actionOf name with
    | .keep => ⟨v, registry, none⟩
    | .drop => ⟨.plain .null, registry, none⟩
    | .constant w => ⟨.plain w, registry, none⟩
    | .append w => settle v registry (v.plus w)
    | .upper => settle v registry v.upper
    | .putEntry key w => settle v registry (v.putEntry key w)
    | .setAttribute key w => settle v registry (v.setAttribute key w)
    | .replace tag => settle v registry (v.replace tag)
    | .dropTag tag => settle v registry (v.dropTag tag)
    | .countExtras => ⟨.plain (.text (v.shown ++ s!"[{extras.length}]")), registry, none⟩
    | .joinExtras =>
      settle v registry do
        let texts ← joinExtras 0 extras
        return .plain (.text (v.shown ++ "(" ++ Text.joinWith "," texts ++ ")"))
    | .applyOther point =>
      match Point.ofJson point with
      | .error fault => ⟨v, registry, some fault⟩
      | .ok p =>
        let inner := registry.apply (run actionOf [] fuel) p (.plain (.text "k"))
        match inner.fault, inner.value with
        | some fault, _ => ⟨v, inner.registry, some fault⟩
        | none, .plain w => settle v inner.registry (v.plus w)
        | none, .node .. => ⟨v, inner.registry, some (.type "unsupported operand")⟩
    | .register point filter =>
      match Point.ofJson point with
      | .error fault => ⟨v, registry, some fault⟩
      | .ok p => settle v (registry.add p filter usualPriority) (v.plus (.text "+"))
    | .unregister point filter =>
      match Point.ofJson point with
      | .error fault => ⟨v, registry, some fault⟩
      | .ok p =>
        let (registry, was) := registry.remove p filter usualPriority
        settle v registry (v.plus (.text (if was then "True" else "False")))
    | .fail w => ⟨v, registry, some (.raised "ValueError" [w])⟩
    | .custom f => settle v registry (f extras v)

/-- a value passed through the filters at a point -/
def apply (o : Observer) (p : Point) (v : Value) (extras : List Extra) : Progress String Value :=
  o.registry.apply (run o.action extras maxNesting) p v

/-- an operation carried out on the registrations; the arguments of an application are extra arguments of the filters -/
def perform (o : Observer) (op : Operation String Value (List Extra)) : Observer × Answer Value :=
  let (registry, answer) := o.registry.perform (fun extras => run o.action extras maxNesting) op
  ({ o with registry := registry }, answer)

/-- a filter added and registered -/
def withFilter (o : Observer) (p : Point) (action : Action) (priority : Int) : Observer :=
  let name := toString o.filters.length
  ⟨o.filters ++ [⟨name, action⟩], o.registry.add p name priority⟩

end Observer

end AmpArticle.Extension
