/-!
Document trees. An element has a tag, attributes in the order they were given, and a sequence of nodes below it; text
that follows an element is simply the next node. An attribute without a value is not the same as one with an empty
value. A mark names an element that is completed later, such as a divider whose successor is not yet known.
-/

namespace AmpArticle.Markup

/-- an attribute; `none` is an attribute written without a value -/
structure Attribute where
  name : String
  value : Option String
  deriving DecidableEq, Inhabited

/-- what an element is known by after it was built -/
inductive Mark where
  | divider (number : Nat)
  | logoBar
  | dateLine
  | customStyle
  | label (number : Nat)
  deriving DecidableEq, Inhabited

/-- a node of a document tree -/
inductive Node where
  | text (content : String)
  | comment (content : String)
  | element (tag : String) (mark : Option Mark) (attributes : List Attribute) (children : List Node)
  deriving Inhabited

/-- an element on its own -/
structure Element where
  tag : String
  mark : Option Mark
  attributes : List Attribute
  children : List Node
  deriving Inhabited

namespace Element

/-- an element without attributes and children -/
def bare (tag : String) : Element := ⟨tag, none, [], []⟩

/-- the element as a node of a tree -/
def toNode (e : Element) : Node := .element e.tag e.mark e.attributes e.children

/-- the value of an attribute -/
def attribute? (e : Element) (name : String) : Option String :=
  (e.attributes.find? (·.name == name)).bind (·.value)

/-- attributes with `name` set: in its old place, or at the end -/
def setIn (name value : String) : List Attribute → List Attribute
  | [] => [⟨name, some value⟩]
  | a :: rest => if a.name = name then ⟨name, some value⟩ :: rest else a :: setIn name value rest

/-- the element with an attribute set, whether or not the texts are allowed -/
def put (e : Element) (name value : String) : Element := { e with attributes := setIn name value e.attributes }

/-- the element with nodes added at its end -/
def append (e : Element) (nodes : List Node) : Element := { e with children := e.children ++ nodes }

end Element

namespace Node

/-- the node as an element, if it is one -/
def element? : Node → Option Element
  | .element tag mark attributes children => some ⟨tag, mark, attributes, children⟩
  | _ => none

/-- the tag of an element -/
def tag? : Node → Option String
  | .element tag .. => some tag
  | _ => none

/-- whether the node is text -/
def isText : Node → Bool
  | .text _ => true
  | _ => false

mutual
/-- all text below a node in document order, comments left out -/
def textContent : Node → String
  | .text content => content
  | .comment _ => ""
  | .element _ _ _ children => textContents children

/-- all text of the nodes in document order -/
def textContents : List Node → String
  | [] => ""
  | n :: rest => n.textContent ++ textContents rest
end

@[simp] theorem textContents_append (xs ys : List Node) :
    textContents (xs ++ ys) = textContents xs ++ textContents ys := by
  induction xs with
  | nil => simp [textContents]
  | cons x xs ih => simp [textContents, ih, String.append_assoc]

mutual
/-- the tree with `f` applied to every element that bears the mark -/
def mapMarked (mark : Mark) (f : Element → Element) : Node → Node
  | .text content => .text content
  | .comment content => .comment content
  | .element tag m attributes children =>
    let below := mapMarkedAll mark f children
    if m = some mark then (f ⟨tag, m, attributes, below⟩).toNode else .element tag m attributes below

/-- `mapMarked` on each node -/
def mapMarkedAll (mark : Mark) (f : Element → Element) : List Node → List Node
  | [] => []
  | n :: rest => n.mapMarked mark f :: mapMarkedAll mark f rest
end

mutual
/-- the first element, in document order, that bears the mark -/
def findMarked? (mark : Mark) : Node → Option Element
  | .text _ => none
  | .comment _ => none
  | .element tag m attributes children =>
    if m = some mark then some ⟨tag, m, attributes, children⟩ else findMarkedIn? mark children

/-- the first element among the nodes and below that bears the mark -/
def findMarkedIn? (mark : Mark) : List Node → Option Element
  | [] => none
  | n :: rest =>
    match n.findMarked? mark with
    | some e => some e
    | none => findMarkedIn? mark rest
end

/-- the nodes with text nodes at their front removed -/
def dropText (nodes : List Node) : List Node := nodes.dropWhile isText

/-- the nodes with text nodes at their end removed -/
def dropTrailingText (nodes : List Node) : List Node := (nodes.reverse.dropWhile isText).reverse

end Node

/-- the element's text before its first child that is no text -/
def Element.leadingText (e : Element) : String := Node.textContents (e.children.takeWhile Node.isText)

end AmpArticle.Markup
