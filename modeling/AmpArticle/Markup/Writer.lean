import AmpArticle.Markup.Tree
import AmpArticle.Text.Percent

/-!
Markup of a tree. Every element has both tags unless it never has content; an empty list entry has no end tag either.
In text the three special characters are escaped, except directly in scripts and style sheets. An attribute value is
written between double quotes, or between single ones when it holds a double quote and no single one; addresses are
percent-encoded first.
-/

namespace AmpArticle.Markup

/-- attributes that are true by being there, and written without a value -/
def booleanAttributes : List String :=
  ["checked", "compact", "declare", "defer", "disabled", "ismap", "multiple", "nohref", "noresize", "noshade",
    "nowrap", "readonly", "selected"]

/-- elements whose text is written as it is -/
def isRawText (tag : String) : Bool := tag.map Char.toLower == "script" || tag.map Char.toLower == "style"

/-- a character of text; control characters other than tab and line ends are left out -/
def escapeText (c : Char) : List Char :=
  if c.toNat < 0x20 ∧ c ≠ '\t' ∧ c ≠ '\n' ∧ c ≠ '\r' then []
  else if c = '&' then "&amp;".toList
  else if c = '<' then "&lt;".toList
  else if c = '>' then "&gt;".toList
  else [c]

/-- whether a character stands for itself in an address: printable ASCII other than the space -/
def isAddressChar (c : Char) : Bool := 0x21 ≤ c.toNat && c.toNat ≤ 0x7e

/-- an address with what is no printable ASCII percent-encoded, leading blanks dropped -/
def escapeAddress (s : String) : String :=
  let trimmed := s.toList.dropWhile fun c => c == ' ' || c == '\t' || c == '\n' || c == '\r'
  String.ofList <| trimmed.flatMap fun c => if isAddressChar c then [c] else Text.percentChar c

/-- whether an attribute of an element holds an address -/
def isAddress (tag name : String) : Bool :=
  let name := name.map Char.toLower
  name == "href" || name == "action" || name == "src" || (name == "name" && tag.map Char.toLower == "a")

/-- a value in quotes -/
def quoteValue (s : String) : String :=
  let cs := s.toList.flatMap escapeText
  if s.toList.contains '"' then
    if s.toList.contains '\'' then
      String.ofList ('"' :: cs.flatMap (fun c => if c = '"' then "&quot;".toList else [c]) ++ ['"'])
    else String.ofList ('\'' :: cs ++ ['\''])
  else String.ofList ('"' :: cs ++ ['"'])

/-- an attribute of an element, with the space in front of it -/
def writeAttribute (tag : String) (a : Attribute) : String :=
  match a.value with
  | none => " " ++ a.name
  | some value =>
    if booleanAttributes.contains (a.name.map Char.toLower) then " " ++ a.name
    else if isAddress tag a.name then " " ++ a.name ++ "=" ++ quoteValue (escapeAddress value)
    else " " ++ a.name ++ "=" ++ quoteValue value

/-- the start tag of an element -/
def writeStart (tag : String) (attributes : List Attribute) : String :=
  "<" ++ tag ++ attributes.foldl (fun s a => s ++ writeAttribute tag a) "" ++ ">"

/-- the end tag of an element, which an empty list entry does not have -/
def writeEnd (tag : String) (children : List Node) : String :=
  if tag.map Char.toLower == "li" && children.isEmpty then "" else "</" ++ tag ++ ">"

mutual
/-- the markup of a node; `raw` says that its text is written as it is -/
def writeNode (raw : Bool) : Node → String
  | .text content => if raw then content else String.ofList (content.toList.flatMap escapeText)
  | .comment content => "<!--" ++ content ++ "-->"
  | .element tag _ attributes children =>
    if isVoid (tag.map Char.toLower) then writeStart tag attributes
    else writeStart tag attributes ++ writeNodes (isRawText tag) children ++ writeEnd tag children

/-- the markup of the nodes -/
def writeNodes (raw : Bool) : List Node → String
  | [] => ""
  | n :: rest => writeNode raw n ++ writeNodes raw rest
end

/-- the markup of an element -/
def Element.write (e : Element) : String := writeNode false e.toNode

end AmpArticle.Markup
