import AmpArticle.Json.Basic
import AmpArticle.Time.Moment

/-!
Records as data: named fields whose values are plain, moments, choices, paths, pairs, lists, tables or records again.
A datum can be shown as a literal and turned into plain JSON.
-/

namespace AmpArticle

/-- a record or a value inside one -/
inductive Datum where
  | plain (value : Json)
  | moment (m : Moment)
  | choice (kind member value : String)
  | path (p : String)
  | pair (first second : Int)
  | list (items : List Datum)
  | table (entries : List (String × Datum))
  | record (kind : String) (fields : List (String × Datum))
  deriving Inhabited

namespace Datum

/-- an optional text -/
def optionalText (s : Option String) : Datum := .plain ((s.map Json.text).getD .null)

/-- an optional whole number -/
def optionalInt (n : Option Int) : Datum := .plain ((n.map Json.int).getD .null)

/-- a text -/
def text (s : String) : Datum := .plain (.text s)

/-- an optional datum, null when there is none -/
def optional {α : Type} (f : α → Datum) (x : Option α) : Datum := (x.map f).getD (.plain .null)

mutual
/-- the datum as a literal -/
def literal : Datum → String
  | plain value => value.literal
  | moment m => m.literal
  | choice kind member value => "<" ++ kind ++ "." ++ member ++ ": " ++ Text.quoted value ++ ">"
  | path p => "PosixPath(" ++ Text.quoted p ++ ")"
  | pair first second => "(" ++ toString first ++ ", " ++ toString second ++ ")"
  | list items => "[" ++ Text.joinWith ", " (literals items) ++ "]"
  | table entries => "\x7b" ++ Text.joinWith ", " (entryLiterals entries) ++ "\x7d"
  | record kind fields => kind ++ "(" ++ Text.joinWith ", " (fieldLiterals fields) ++ ")"

/-- the literals of the items -/
def literals : List Datum → List String
  | [] => []
  | item :: rest => literal item :: literals rest

/-- the literals of the entries of a table -/
def entryLiterals : List (String × Datum) → List String
  | [] => []
  | (key, value) :: rest => (Text.quoted key ++ ": " ++ literal value) :: entryLiterals rest

/-- the literals of the fields of a record -/
def fieldLiterals : List (String × Datum) → List String
  | [] => []
  | (name, value) :: rest => (name ++ "=" ++ literal value) :: fieldLiterals rest
end

mutual
/-- the datum as plain JSON: moments, choices and paths are texts, pairs are lists -/
def toJson : Datum → Json
  | plain value => value
  | moment m => .text m.isoText
  | choice _ _ value => .text value
  | path p => .text p
  | pair first second => .list [.int first, .int second]
  | list items => .list (toJsons items)
  | table entries => .object (entriesToJson entries)
  | record _ fields => .object (entriesToJson fields)

/-- the items as plain JSON -/
def toJsons : List Datum → List Json
  | [] => []
  | item :: rest => toJson item :: toJsons rest

/-- the entries as plain JSON -/
def entriesToJson : List (String × Datum) → List (String × Json)
  | [] => []
  | (key, value) :: rest => (key, toJson value) :: entriesToJson rest
end

end Datum

end AmpArticle
