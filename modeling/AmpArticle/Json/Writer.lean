import AmpArticle.Json.Basic

/-!
JSON text of a value on one line: a comma and a colon are followed by a space, slashes and characters outside ASCII
stand for themselves, and numbers that are none are written `NaN`, `Infinity` and `-Infinity`.
-/

namespace AmpArticle.Json

/-- one character inside a JSON string -/
def escapeChar (c : Char) : List Char :=
  if c = '"' then ['\\', '"']
  else if c = '\\' then ['\\', '\\']
  else if c = '\n' then ['\\', 'n']
  else if c = '\r' then ['\\', 'r']
  else if c = '\t' then ['\\', 't']
  else if c.toNat = 8 then ['\\', 'b']
  else if c.toNat = 12 then ['\\', 'f']
  else if c.toNat < 0x20 then '\\' :: 'u' :: Text.hexDigits 4 c.toNat
  else [c]

/-- a JSON string -/
def writeString (s : String) : String := String.ofList ('"' :: s.toList.flatMap escapeChar ++ ['"'])

/-- a JSON number with a fraction or an exponent, or one of the words for non-numbers -/
def writeReal : Double → String
  | .nan => "NaN"
  | .infinity negative => if negative then "-Infinity" else "Infinity"
  | x => Layout.literal.render x

mutual
/-- the JSON text of a value -/
def write : Json → String
  | null => "null"
  | bool b => if b then "true" else "false"
  | int n => toString n
  | real x => writeReal x
  | text s => writeString s
  | list items => "[" ++ Text.joinWith ", " (writeItems items) ++ "]"
  | object entries => "\x7b" ++ Text.joinWith ", " (writeEntries entries) ++ "\x7d"

/-- the texts of the items -/
def writeItems : List Json → List String
  | [] => []
  | item :: rest => write item :: writeItems rest

/-- the texts of the entries -/
def writeEntries : List (String × Json) → List String
  | [] => []
  | (key, value) :: rest => (writeString key ++ ": " ++ write value) :: writeEntries rest
end

end AmpArticle.Json
