import AmpArticle.Number.Quantity

/-!
Numbers read from texts that people write: blanks around them, digits of any script, single underscores between
digits, and the names of what is not finite.
-/

namespace AmpArticle

namespace Text

/-- the zeros of all scripts that have decimal digits; the nine other digits follow each -/
def zeros : List Nat := [
  0x30, 0x660, 0x6f0, 0x7c0, 0x966, 0x9e6, 0xa66, 0xae6, 0xb66, 0xbe6, 0xc66, 0xce6, 0xd66, 0xde6, 0xe50, 0xed0,
  0xf20, 0x1040, 0x1090, 0x17e0, 0x1810, 0x1946, 0x19d0, 0x1a80, 0x1a90, 0x1b50, 0x1bb0, 0x1c40, 0x1c50, 0xa620,
  0xa8d0, 0xa900, 0xa9d0, 0xa9f0, 0xaa50, 0xabf0, 0xff10, 0x104a0, 0x10d30, 0x11066, 0x110f0, 0x11136, 0x111d0,
  0x112f0, 0x11450, 0x114d0, 0x11650, 0x116c0, 0x11730, 0x118e0, 0x11950, 0x11c50, 0x11d50, 0x11da0, 0x16a60,
  0x16ac0, 0x16b50, 0x1d7ce, 0x1d7d8, 0x1d7e2, 0x1d7ec, 0x1d7f6, 0x1e140, 0x1e2f0, 0x1e950, 0x1fbf0]

/-- the value of a decimal digit of any script -/
def decimalDigit? (c : Char) : Option Nat :=
  (zeros.find? fun z => z ≤ c.toNat && c.toNat < z + 10).map fun z => c.toNat - z

/-- a text with the digits of all scripts written in ASCII -/
def asciiDigits (cs : List Char) : List Char :=
  cs.map fun c => match decimalDigit? c with
    | some d => Char.ofNat (0x30 + d)
    | none => c

/-- a text without its underscores, each of which must stand between two digits -/
def dropUnderscores? (before : Option Char) : List Char → Option (List Char)
  | [] => some []
  | '_' :: rest =>
    if before.any Char.isDigit && rest.head?.any Char.isDigit then dropUnderscores? (some '_') rest else none
  | c :: rest => (dropUnderscores? (some c) rest).map (c :: ·)

end Text

namespace Double

/-- the names of what is not finite -/
def named? (negative : Bool) (cs : List Char) : Option Double :=
  match String.ofList (cs.map Char.toLower) with
  | "inf" | "infinity" => some (.infinity negative)
  | "nan" => some .nan
  | _ => none

/-- an optional sign: whether it is a minus, and what follows -/
def signOf : List Char → Bool × List Char
  | '-' :: rest => (true, rest)
  | '+' :: rest => (false, rest)
  | cs => (false, cs)

/-- the exponent at the end of a number -/
def exponent? : List Char → Option Int
  | [] => some 0
  | e :: rest =>
    if e = 'e' ∨ e = 'E' then
      let (negative, digits) := signOf rest
      if digits.isEmpty || !digits.all Char.isDigit then none
      else
        let n : Int := Json.digitsValue digits
        some (if negative then -n else n)
    else none

/-- digits with at most one point, and an exponent -/
def decimal? (negative : Bool) (cs : List Char) : Option Double :=
  let whole := cs.takeWhile Char.isDigit
  let rest := cs.drop whole.length
  let (fraction, rest) := match rest with
    | '.' :: more => (more.takeWhile Char.isDigit, more.dropWhile Char.isDigit)
    | _ => ([], rest)
  if whole.isEmpty && fraction.isEmpty then none
  else (exponent? rest).map fun e => Double.ofDecimal negative (Json.digitsValue (whole ++ fraction)) (e - fraction.length)

/-- the number that a text denotes -/
def ofText? (s : String) : Option Double := do
  let cs ← Text.dropUnderscores? none (Text.asciiDigits (Text.trimBlank s.toList))
  let (negative, cs) := signOf cs
  named? negative cs <|> decimal? negative cs

end Double

namespace Json

/-- a value as a number: a truth value counts as one or zero, and a text is read -/
def toDouble : Json → Except Fault Double
  | .bool b => .ok (Double.ofInt (if b then 1 else 0))
  | .int n => (Quantity.int n).toDouble
  | .real x => .ok x
  | .text s =>
    match Double.ofText? s with
    | some x => .ok x
    | none => .error (.notNumberText s)
  | value => .error (.notNumber value.kindName)

end Json

end AmpArticle
