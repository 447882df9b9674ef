import AmpArticle.Json.Limits

/-!
Reading JSON text. Besides the standard grammar the literals `NaN`, `Infinity` and `-Infinity` are numbers. A failure
says what was expected and where, by line, column and character offset, or which limit of the reader was passed.
-/

namespace AmpArticle.Json

/-- what a text lacks to be JSON -/
inductive ReadProblem where
  | expectingValue
  | expectingName
  | expectingColon
  | expectingComma
  | unterminatedString
  | controlCharacter
  | unknownEscape
  | invalidUnicodeEscape
  | extraData
  | byteOrderMark
  deriving DecidableEq, Inhabited

/-- the wording of a problem, without its place -/
def ReadProblem.message : ReadProblem → String
  | .expectingValue => "Expecting value"
  | .expectingName => "Expecting property name enclosed in double quotes"
  | .expectingColon => "Expecting ':' delimiter"
  | .expectingComma => "Expecting ',' delimiter"
  | .unterminatedString => "Unterminated string starting at"
  | .controlCharacter => "Invalid control character at"
  | .unknownEscape => "Invalid \\escape"
  | .invalidUnicodeEscape => "Invalid \\uXXXX escape"
  | .extraData => "Extra data"
  | .byteOrderMark => "Unexpected UTF-8 BOM (decode using utf-8-sig)"

/-- a problem and its place: lines and columns count from one, the offset from zero -/
structure ReadError where
  problem : ReadProblem
  line : Nat
  column : Nat
  offset : Nat
  deriving DecidableEq, Inhabited

/-- the wording of a failure -/
def ReadError.message (e : ReadError) : String :=
  s!"{e.problem.message}: line {e.line} column {e.column} (char {e.offset})"

/-- why a text gives no value -/
inductive Unread where
  | malformed (error : ReadError)
  | beyond (limit : Limit)
  deriving DecidableEq, Inhabited

/-- a failure inside the reader: a problem and how many characters were left where it lies, or a limit -/
inductive Failure where
  | problem (problem : ReadProblem) (left : Nat)
  | limit (limit : Limit)

/-- the blanks of JSON -/
def isSpace (c : Char) : Bool := c == ' ' || c == '\t' || c == '\n' || c == '\r'

/-- fails at the first of the given characters -/
def failAt {α : Type} (problem : ReadProblem) (cs : List Char) : Except Failure α := .error (.problem problem cs.length)

/-- the value of a hexadecimal digit -/
def hexValue? (c : Char) : Option Nat :=
  if '0' ≤ c ∧ c ≤ '9' then some (c.toNat - 0x30)
  else if 'a' ≤ c ∧ c ≤ 'f' then some (c.toNat - 0x57)
  else if 'A' ≤ c ∧ c ≤ 'F' then some (c.toNat - 0x37)
  else none

/-- four hexadecimal digits; `cs` begins behind the `u` of the escape, and a failure is at the `u`. A quote must still
follow the digits -/
def readUnit (cs : List Char) : Except Failure (Nat × List Char) :=
  match cs with
  | a :: b :: c :: d :: _ :: _ =>
    match hexValue? a, hexValue? b, hexValue? c, hexValue? d with
    | some a, some b, some c, some d => .ok (((a * 16 + b) * 16 + c) * 16 + d, cs.drop 4)
    | _, _, _, _ => .error (.problem .invalidUnicodeEscape (cs.length + 1))
  | _ => .error (.problem .invalidUnicodeEscape (cs.length + 1))

/-- a character by number, two units of a surrogate pair making one; a unit without its partner is replaced -/
def readUnicode (cs : List Char) : Except Failure (Char × List Char) := do
  let (high, rest) ← readUnit cs
  if 0xd800 ≤ high ∧ high < 0xdc00 then
    match rest with
    | '\\' :: 'u' :: more =>
      if more.length ≤ 4 then pure (Char.ofNat 0xfffd, rest)
      else
        let (low, after) ← readUnit more
        if 0xdc00 ≤ low ∧ low < 0xe000 then
          pure (Char.ofNat (0x10000 + (high - 0xd800) * 0x400 + (low - 0xdc00)), after)
        else pure (Char.ofNat 0xfffd, rest)
    | _ => pure (Char.ofNat 0xfffd, rest)
  else if 0xdc00 ≤ high ∧ high < 0xe000 then pure (Char.ofNat 0xfffd, rest)
  else pure (Char.ofNat high, rest)

/-- whether an escape that begins with these two digits is the first unit of a surrogate pair -/
def isHighUnit (a b : Char) : Bool := ['d', 'D'].contains a && ['8', '9', 'a', 'b', 'A', 'B'].contains b

/-- whether an escape that begins with these two digits is the second unit of a surrogate pair -/
def isLowUnit (a b : Char) : Bool := ['d', 'D'].contains a && ['c', 'd', 'e', 'f', 'C', 'D', 'E', 'F'].contains b

/-- whether every escaped unit of a surrogate pair has its partner, in a text that is JSON -/
def surrogatesPaired : List Char → Bool
  | '\\' :: 'u' :: a :: b :: _ :: _ :: rest =>
    if isHighUnit a b then
      match rest with
      | '\\' :: 'u' :: a :: b :: _ :: _ :: more => isLowUnit a b && surrogatesPaired more
      | _ => false
    else !isLowUnit a b && surrogatesPaired rest
  | '\\' :: _ :: rest => surrogatesPaired rest
  | _ :: rest => surrogatesPaired rest
  | [] => true

/-- the character that a one-letter escape stands for -/
def simpleEscape? (c : Char) : Option Char :=
  if c = '"' ∨ c = '\\' ∨ c = '/' then some c
  else if c = 'b' then some (Char.ofNat 8)
  else if c = 'f' then some (Char.ofNat 12)
  else if c = 'n' then some '\n'
  else if c = 'r' then some '\r'
  else if c = 't' then some '\t'
  else none

/-- the rest of a string behind its opening quote; `start` is what was left at that quote -/
def readString (start : Nat) (soFar : List Char) : Nat → List Char → Except Failure (String × List Char)
  | 0, _ => .error (.problem .unterminatedString start)
  | _ + 1, [] => .error (.problem .unterminatedString start)
  | fuel + 1, c :: rest =>
    if c = '"' then .ok (String.ofList soFar.reverse, rest)
    else if c = '\\' then
      match rest with
      | [] => .error (.problem .unterminatedString start)
      | 'u' :: more => do
        let (decoded, after) ← readUnicode more
        readString start (decoded :: soFar) fuel after
      | e :: more =>
        match simpleEscape? e with
        | some decoded => readString start (decoded :: soFar) fuel more
        | none => failAt .unknownEscape (c :: rest)
    else if c.toNat < 0x20 then failAt .controlCharacter (c :: rest)
    else readString start (c :: soFar) fuel rest

/-- the whole number written by decimal digits -/
def digitsValue (digits : List Char) : Nat := digits.foldl (fun n c => n * 10 + (c.toNat - 0x30)) 0

/-- a fraction behind its point: at least one digit -/
def readFraction (cs : List Char) : List Char × List Char :=
  match cs with
  | '.' :: rest =>
    let digits := rest.takeWhile Char.isDigit
    if digits.isEmpty then ([], cs) else (digits, rest.dropWhile Char.isDigit)
  | _ => ([], cs)

/-- an exponent: a letter, perhaps a sign, at least one digit -/
def readExponent (cs : List Char) : Option (Int × List Char) :=
  match cs with
  | e :: rest =>
    if e = 'e' ∨ e = 'E' then
      let (negative, digits) := match rest with
        | '-' :: more => (true, more)
        | '+' :: more => (false, more)
        | more => (false, more)
      let ds := digits.takeWhile Char.isDigit
      if ds.isEmpty then none
      else
        let n : Int := digitsValue ds
        some (if negative then -n else n, digits.dropWhile Char.isDigit)
    else none
  | [] => none

/-- a number without its sign; one with a fraction or an exponent is not whole -/
def readMagnitude (negative : Bool) (cs : List Char) : Option (Json × List Char) :=
  let whole := match cs with
    | '0' :: _ => ['0']
    | _ => cs.takeWhile Char.isDigit
  if whole.isEmpty then none
  else
    let (fraction, rest) := readFraction (cs.drop whole.length)
    match fraction, readExponent rest with
    | [], none =>
      let n : Int := digitsValue whole
      some (.int (if negative then -n else n), rest)
    | _, e =>
      let (exponent, after) := e.getD (0, rest)
      some (.real (Double.ofDecimal negative (digitsValue (whole ++ fraction)) (exponent - fraction.length)), after)

/-- whether a number is negative, and what it is behind its sign -/
def cutSign : List Char → Bool × List Char
  | '-' :: rest => (true, rest)
  | cs => (false, cs)

/-- a number with its sign; a whole one may have too many digits -/
def readNumber (limits : Limits) (cs : List Char) : Except Failure (Json × List Char) :=
  let (negative, magnitude) := cutSign cs
  match readMagnitude negative magnitude with
  | some (.int n, rest) =>
    let count := magnitude.length - rest.length
    if limits.number negative count then .ok (.int n, rest) else .error (.limit (.digitsRead count))
  | some found => .ok found
  | none => failAt .expectingValue cs

/-- a number or one of the literal words -/
def readScalar (limits : Limits) (cs : List Char) : Except Failure (Json × List Char) :=
  let word (w : String) : Option (List Char) := Text.dropStart? w.toList cs
  if let some rest := word "null" then .ok (.null, rest)
  else if let some rest := word "true" then .ok (.bool true, rest)
  else if let some rest := word "false" then .ok (.bool false, rest)
  else if let some rest := word "NaN" then .ok (.real .nan, rest)
  else if let some rest := word "Infinity" then .ok (.real (.infinity false), rest)
  else if let some rest := word "-Infinity" then .ok (.real (.infinity true), rest)
  else readNumber limits cs

mutual
/-- a value inside `depth` lists and objects; `fuel` bounds the number of values, items and entries still to be read -/
def readValue (limits : Limits) : Nat → Nat → List Char → Except Failure (Json × List Char)
  | _, 0, cs => failAt .expectingValue cs
  | depth, fuel + 1, cs =>
    match cs with
    | '"' :: rest => do
      let (s, after) ← readString cs.length [] (rest.length + 1) rest
      pure (.text s, after)
    | '[' :: rest =>
      if limits.levels (depth + 1) then
        match rest.dropWhile isSpace with
        | ']' :: after => pure (.list [], after)
        | items => do
          let (values, after) ← readItems limits (depth + 1) fuel items
          pure (.list values, after)
      else .error (.limit .listRead)
    | '\x7b' :: rest =>
      if limits.levels (depth + 1) then
        match rest.dropWhile isSpace with
        | '\x7d' :: after => pure (.object [], after)
        | entries => do
          let (values, after) ← readEntries limits [] (depth + 1) fuel entries
          pure (.object values, after)
      else .error (.limit .objectRead)
    | _ => readScalar limits cs

/-- the items of a list up to its bracket -/
def readItems (limits : Limits) : Nat → Nat → List Char → Except Failure (List Json × List Char)
  | _, 0, cs => failAt .expectingValue cs
  | depth, fuel + 1, cs => do
    let (value, rest) ← readValue limits depth fuel cs
    match rest.dropWhile isSpace with
    | ']' :: after => pure ([value], after)
    | ',' :: more => do
      let (values, after) ← readItems limits depth fuel (more.dropWhile isSpace)
      pure (value :: values, after)
    | other => failAt .expectingComma other

/-- the entries of an object up to its brace, added to those already read; a repeated key takes the new value -/
def readEntries (limits : Limits) (soFar : List (String × Json)) :
    Nat → Nat → List Char → Except Failure (List (String × Json) × List Char)
  | _, 0, cs => failAt .expectingName cs
  | depth, fuel + 1, cs =>
    match cs with
    | '"' :: rest => do
      let (key, afterKey) ← readString cs.length [] (rest.length + 1) rest
      match afterKey.dropWhile isSpace with
      | ':' :: more => do
        let (value, afterValue) ← readValue limits depth fuel (more.dropWhile isSpace)
        let entries := insertEntry key value soFar
        match afterValue.dropWhile isSpace with
        | '\x7d' :: after => pure (entries, after)
        | ',' :: more => readEntries limits entries depth fuel (more.dropWhile isSpace)
        | other => failAt .expectingComma other
      | other => failAt .expectingColon other
    | _ => failAt .expectingName cs
end

/-- a failure with its place in the whole text -/
def Failure.locate (whole : List Char) : Failure → Unread
  | .problem found left =>
    let before := whole.take (whole.length - left)
    let lines := Text.splitOnChar '\n' before
    .malformed ⟨found, lines.length, (lines.getLastD []).length + 1, before.length⟩
  | .limit l => .beyond l

/-- the value of a JSON text, for a reader with limits -/
def readWithin (limits : Limits) (s : String) : Except Unread Json :=
  let cs := s.toList
  let result : Except Failure Json := do
    if cs.head? == some (Char.ofNat 0xfeff) then failAt .byteOrderMark cs
    let (value, rest) ← readValue limits 0 (2 * cs.length + 2) (cs.dropWhile isSpace)
    match rest.dropWhile isSpace with
    | [] => pure value
    | other => failAt .extraData other
  result.mapError (Failure.locate cs)

/-- the value that a JSON text denotes, whatever room it takes to read it -/
def read (s : String) : Except Unread Json := readWithin .unbounded s

end AmpArticle.Json
