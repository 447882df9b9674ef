import AmpArticle.Markup.Writer

/-!
The text of a whole document: its type, then the markup of its root with four attributes written bare.
-/

namespace AmpArticle.Page

/-- the document type -/
def docType : String := "<!doctype html>"

/-- the attributes that are written without a value when they are empty -/
def bareNames : List String := ["amp", "amp-custom", "amp-boilerplate", "async"]

/-- what follows the name of an empty attribute -/
def emptyValue : List Char := ['=', '"', '"']

/-- the name of an empty attribute that a text begins with, and what follows its value -/
def bareAttribute? (cs : List Char) : Option (List Char × List Char) :=
  bareNames.findSome? fun name =>
    (Text.dropStart? (name.toList ++ emptyValue) cs).map fun rest => (name.toList, rest)

/-- a text with the empty values dropped behind a blank and one of the names; `fuel` bounds its length -/
def dropEmptyValues : Nat → List Char → List Char
  | 0, cs => cs
  | _ + 1, [] => []
  | fuel + 1, c :: cs =>
    if Text.isBlank c then
      match bareAttribute? cs with
      | some (name, rest) => c :: name ++ dropEmptyValues fuel rest
      | none => c :: dropEmptyValues fuel cs
    else c :: dropEmptyValues fuel cs

/-- the text of a document -/
def serialize (root : Markup.Element) : String :=
  let cs := root.write.toList
  docType ++ String.ofList (dropEmptyValues cs.length cs)

end AmpArticle.Page
