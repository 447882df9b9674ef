import AmpArticle.Number.Double

/-!
Decimal text of floating-point numbers. `shortest` finds the fewest digits that read back as the same number and, of
those, the nearest to it; `rounded` gives a fixed number of significant digits. A `Layout` says how digits and exponent
are written.
-/

namespace AmpArticle

/-- significant decimal digits without trailing zeros, `0.d₁d₂… * 10 ^ point` -/
structure Digits where
  digits : List Char
  point : Int
  deriving DecidableEq

namespace Digits

/-- the exponent `p` with `10 ^ p ≤ q < 10 ^ (p + 1)`, for a positive `q` in the range of the numbers -/
def decimalExponent (q : Rat) : Int :=
  let guess := (binaryExponent q * 30103).fdiv 100000
  if (10 : Rat) ^ (guess + 1) ≤ q then guess + 1
  else if (10 : Rat) ^ guess ≤ q then guess
  else guess - 1

/-- the digits of `n` units of `10 ^ unit` -/
def ofNat (n : Nat) (unit : Int) : Digits :=
  let all := (toString n).toList
  let trimmed := (all.reverse.dropWhile (· == '0')).reverse
  ⟨trimmed, unit + all.length⟩

/-- `q` rounded to `count` significant digits, a tie going to the even last digit -/
def rounded (count : Nat) (q : Rat) : Digits :=
  let unit := decimalExponent q - (count : Int) + 1
  ofNat (roundHalfEven (q / (10 : Rat) ^ unit)).toNat unit

/-- of the two neighbours of `q` on the grid of `count` significant digits, the nearest that reads back as `x` -/
def readsBack? (x : Double) (q : Rat) (count : Nat) : Option Digits :=
  let unit := decimalExponent q - (count : Int) + 1
  let scaled := q / (10 : Rat) ^ unit
  let low := scaled.floor.toNat
  let works (n : Nat) : Bool := Double.nearestMagnitude false ((n : Rat) * (10 : Rat) ^ unit) == x
  match works low, works (low + 1) with
  | true, true =>
    if scaled - low < 1 / 2 ∨ (scaled - low = 1 / 2 ∧ low % 2 = 0) then some (ofNat low unit)
    else some (ofNat (low + 1) unit)
  | true, false => some (ofNat low unit)
  | false, true => some (ofNat (low + 1) unit)
  | false, false => none

/-- the fewest digits that read back as the positive number `x` of value `q`; seventeen always do -/
def shortest (x : Double) (q : Rat) : Digits :=
  ((List.range 17).findSome? fun n => readsBack? x q (n + 1)).getD (rounded 17 q)

end Digits

/-- how a number is written -/
structure Layout where
  /-- number of significant digits, or the fewest that read back -/
  significant : Option Nat
  /-- decimal exponents from `-4` up to below this one are written without an exponent -/
  positionalBelow : Int
  /-- whether a whole number is marked by a final `.0` -/
  pointZero : Bool

namespace Layout

/-- the literal of a number: fewest digits, positional below `10 ^ 16`, a whole number marked as a fraction -/
def literal : Layout := ⟨none, 16, true⟩

/-- at most `count` significant digits, trailing zeros dropped -/
def general (count : Nat) : Layout := ⟨some count, count, false⟩

/-- an exponent has a sign and at least two digits -/
def exponentText (e : Int) : String :=
  let digits := toString e.natAbs
  (if e < 0 then "e-" else "e+") ++ (if digits.length < 2 then "0" ++ digits else digits)

/-- the text of a positive number's digits -/
def renderDigits (layout : Layout) (d : Digits) : String :=
  let p := d.point - 1
  let n : Int := d.digits.length
  if -4 ≤ p ∧ p < layout.positionalBelow then
    if d.point ≤ 0 then "0." ++ String.ofList (List.replicate (-d.point).toNat '0' ++ d.digits)
    else if n ≤ d.point then
      String.ofList (d.digits ++ List.replicate (d.point - n).toNat '0') ++ (if layout.pointZero then ".0" else "")
    else String.ofList (d.digits.take d.point.toNat) ++ "." ++ String.ofList (d.digits.drop d.point.toNat)
  else
    match d.digits with
    | [] => "0"
    | [c] => String.singleton c ++ exponentText p
    | c :: rest => String.singleton c ++ "." ++ String.ofList rest ++ exponentText p

/-- the text of a number -/
def render (layout : Layout) : Double → String
  | .nan => "nan"
  | .infinity negative => if negative then "-inf" else "inf"
  | .finite negative m e =>
    let body :=
      if m = 0 then (if layout.pointZero then "0.0" else "0")
      else
        let x := Double.finite false m e
        let q := x.toRat
        layout.renderDigits <| match layout.significant with
          | some count => Digits.rounded count q
          | none => Digits.shortest x q
    if negative then "-" ++ body else body

end Layout

end AmpArticle
