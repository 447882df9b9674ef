import AmpArticle.Fault
import AmpArticle.Markup.Fragment

/-!
Names of elements and attributes, and elements built from parts that are checked first. A name begins like a word and
has no colon; names and values have no control characters.
-/

namespace AmpArticle.Markup

/-- the characters beyond ASCII that a name may begin with -/
def nameStartRanges : List (Nat × Nat) :=
  [(0xc0, 0xd6), (0xd8, 0xf6), (0xf8, 0x2ff), (0x370, 0x37d), (0x37f, 0x1fff), (0x200c, 0x200d), (0x2070, 0x218f),
    (0x2c00, 0x2fef), (0x3001, 0xd7ff), (0xf900, 0xfdcf), (0xfdf0, 0xfffd), (0x10000, 0xeffff)]

/-- whether a name may begin with a character -/
def isNameStart (c : Char) : Bool :=
  c.isAlpha || c == '_' || nameStartRanges.any fun r => r.1 ≤ c.toNat && c.toNat ≤ r.2

/-- whether a name may go on with a character -/
def isNamePart (c : Char) : Bool :=
  isNameStart c || c.isDigit || c == '-' || c == '.' || c.toNat == 0xb7 ||
    (0x300 ≤ c.toNat && c.toNat ≤ 0x36f) || (0x203f ≤ c.toNat && c.toNat ≤ 0x2040)

/-- whether a text is a name -/
def isName (s : String) : Bool :=
  match s.toList with
  | [] => false
  | c :: rest => isNameStart c && rest.all isNamePart

/-- a text that may stand in a document -/
def checkText (s : String) : Except Fault Unit :=
  if isAllowedText s then .ok () else .error .forbiddenCharacter

/-- a text that may be the name of an element -/
def checkTag (tag : String) : Except Fault Unit := do
  checkText tag
  if tag.isEmpty then throw .emptyTag
  if !isName tag then throw (.invalidTag tag)

namespace Element

/-- a new element without attributes and children -/
def create (tag : String) : Except Fault Element := do
  checkTag tag
  return bare tag

/-- the element with an attribute set; an element that keeps its place is given back unchanged when this fails -/
def set (e : Element) (name value : String) : Except Fault Element := do
  checkText name
  if name.isEmpty then throw .emptyTag
  if !isName name then throw (.invalidAttribute name)
  checkText value
  return e.put name value

/-- the element with attributes set one after the other, until one fails -/
def setAll (e : Element) : List (String × String) → Element × Option Fault
  | [] => (e, none)
  | (name, value) :: rest =>
    match e.set name value with
    | .ok e => e.setAll rest
    | .error fault => (e, some fault)

/-- the element with its text set: what stood before its first child is replaced -/
def setText (e : Element) (s : String) : Except Fault Element := do
  checkText s
  return { e with children := (if s.isEmpty then [] else [.text s]) ++ Node.dropText e.children }

end Element

end AmpArticle.Markup
