import AmpArticle.Fault

/-!
Colours written in hexadecimal digits, with opacity in front: three, four, six or eight digits, a single digit standing
for itself twice. A fully opaque colour is written without its opacity.
-/

namespace AmpArticle.Css

/-- red, green and blue below 256, and the opacity below 256 when one is given -/
structure Color where
  opacity : Option Nat
  red : Nat
  green : Nat
  blue : Nat
  deriving DecidableEq, Inhabited

namespace Color

/-- a digit of a colour, in lower case -/
def isDigit (c : Char) : Bool := c.isDigit || ('a' ≤ c && c ≤ 'f')

/-- the digits of a colour text: blanks around it and number signs in front are dropped, letters made small -/
def digits (s : String) : List Char := ((Text.trimBlank s.toList).dropWhile (· == '#')).map Char.toLower

/-- the value of a digit -/
def digitValue (c : Char) : Nat := (Json.hexValue? c).getD 0

/-- the values of pairs of digits; a digit left over is none -/
def pairs : List Char → List Nat
  | a :: b :: rest => (digitValue a * 16 + digitValue b) :: pairs rest
  | _ => []

/-- each digit twice -/
def doubled (cs : List Char) : List Char := cs.flatMap fun c => [c, c]

/-- the colour of a text -/
def ofText (s : String) : Except Fault Color :=
  let ds := digits s
  if ds.isEmpty || !ds.all isDigit then .error (.colorDigits s)
  else
    match pairs (if ds.length = 3 ∨ ds.length = 4 then doubled ds else ds), ds.length with
    | [r, g, b], 3 | [r, g, b], 6 => .ok ⟨none, r, g, b⟩
    | [a, r, g, b], 4 | [a, r, g, b], 8 => .ok ⟨some a, r, g, b⟩
    | _, _ => .error (.colorLength s)

/-- an opacity of 255 at most in hundredths, the nearest; no opacity lies halfway between two -/
def hundredths (opacity : Nat) : Nat := (200 * opacity + 255) / 510

/-- hundredths up to one as a decimal fraction without trailing zeros -/
def hundredthsText (n : Nat) : String :=
  if n = 0 then "0"
  else if n = 100 then "1"
  else if n % 10 = 0 then "0." ++ toString (n / 10)
  else if n < 10 then "0.0" ++ toString n
  else "0." ++ toString n

/-- the colour as a style sheet has it -/
def render (c : Color) : String :=
  let rgb := s!"{c.red},{c.green},{c.blue}"
  match c.opacity with
  | none => "rgb(" ++ rgb ++ ")"
  | some a =>
    if hundredths a = 100 then "rgb(" ++ rgb ++ ")"
    else "rgba(" ++ rgb ++ "," ++ hundredthsText (hundredths a) ++ ")"

end Color

/-- a colour in a style description as a style sheet has it; only a text can be one -/
def toRgb : Json → Except Fault String
  | .text s => (Color.ofText s).map Color.render
  | color => .error (.colorKind color)

end AmpArticle.Css
