import AmpArticle.Text.Blank
import AmpArticle.Text.Percent

/-!
Queries of addresses: names with values, in the form that a submitted form has. A space is written as a plus sign and
any other character but letters, digits and four signs is percent-encoded, so that the two marks that join the parts
never stand inside a part.
-/

namespace AmpArticle.Url

/-- whether a character stands for itself in a query -/
def isQueryChar (c : Char) : Bool := c.isAlphanum || c == '_' || c == '.' || c == '-' || c == '~'

/-- a character of a name or a value -/
def queryChar (c : Char) : List Char :=
  if isQueryChar c then [c] else if c = ' ' then ['+'] else Text.percentChar c

/-- a name or a value of a query -/
def queryPart (s : String) : String := String.ofList (s.toList.flatMap queryChar)

/-- names with their values as a query -/
def query (parts : List (String × String)) : String :=
  Text.joinWith "&" (parts.map fun p => queryPart p.1 ++ "=" ++ queryPart p.2)

end AmpArticle.Url
