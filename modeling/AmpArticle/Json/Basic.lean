import AmpArticle.Number.Digits
import AmpArticle.Text.Blank
import AmpArticle.Text.Quoted

/-!
Decoded JSON: the values that articles, styles and properties are made of. Whole numbers are unbounded and distinct
from numbers with a fraction or an exponent; an object keeps the order of its entries and has one entry per key.
-/

namespace AmpArticle

/-- a decoded JSON value -/
inductive Json where
  | null
  | bool (value : Bool)
  | int (value : Int)
  | real (value : Double)
  | text (value : String)
  | list (items : List Json)
  | object (entries : List (String × Json))
  deriving BEq, Inhabited

/-- the value under a key in insertion-ordered entries -/
def lookup? {α β : Type} [DecidableEq α] (key : α) : List (α × β) → Option β
  | [] => none
  | (k, v) :: rest => if k = key then some v else lookup? key rest

/-- entries with `key` set to `value`: in its old place, or at the end when it is new -/
def insertEntry {α β : Type} [DecidableEq α] (key : α) (value : β) : List (α × β) → List (α × β)
  | [] => [(key, value)]
  | (k, v) :: rest => if k = key then (k, value) :: rest else (k, v) :: insertEntry key value rest

namespace Json

/-- the name of the kind of a value, as messages give it -/
def kindName : Json → String
  | null => "NoneType"
  | bool _ => "bool"
  | int _ => "int"
  | real _ => "float"
  | text _ => "str"
  | list _ => "list"
  | object _ => "dict"

/-- whether a value counts as present: not null, false, zero or empty -/
def isTruthy : Json → Bool
  | null => false
  | bool b => b
  | int n => n != 0
  | real x => !x.isZero
  | text s => !s.isEmpty
  | list items => !items.isEmpty
  | object entries => !entries.isEmpty

mutual
/-- the value as a literal, however long it is: texts quoted, lists in brackets, objects in braces -/
def literal : Json → String
  | null => "None"
  | bool b => if b then "True" else "False"
  | int n => toString n
  | real x => Layout.literal.render x
  | text s => Text.quoted s
  | list items => "[" ++ Text.joinWith ", " (literalItems items) ++ "]"
  | object entries => "\x7b" ++ Text.joinWith ", " (literalEntries entries) ++ "\x7d"

/-- the literals of the items -/
def literalItems : List Json → List String
  | [] => []
  | item :: rest => literal item :: literalItems rest

/-- the literals of the entries, key and value -/
def literalEntries : List (String × Json) → List String
  | [] => []
  | (key, value) :: rest => (Text.quoted key ++ ": " ++ literal value) :: literalEntries rest
end

/-- the value inside a running text, however long it is: a text is itself, all else its literal -/
def plain : Json → String
  | text s => s
  | value => literal value

/-- the entries of an object -/
def entries? : Json → Option (List (String × Json))
  | object entries => some entries
  | _ => none

/-- the value under a key of an object -/
def field? (key : String) : Json → Option Json
  | object entries => lookup? key entries
  | _ => none

end Json

end AmpArticle
