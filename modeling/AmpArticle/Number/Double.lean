/-!
Binary floating-point numbers with 53 significant bits, as exact dyadic rationals and the two kinds of non-numbers.
Every operation is the exact rational operation followed by one rounding, `Double.nearest`: to the nearest number, a
tie going to the even mantissa. Nothing here touches the machine's own floating point, so every result is a value of
the logic.
-/

namespace AmpArticle

/-- the integer nearest to `q`, a tie going to the even one -/
def roundHalfEven (q : Rat) : Int :=
  let low := q.floor
  let rest := q - low
  if rest < 1 / 2 then low
  else if 1 / 2 < rest then low + 1
  else if low % 2 = 0 then low
  else low + 1

/-- `q` without its fractional part, toward zero -/
def truncate (q : Rat) : Int := if q < 0 then -(-q).floor else q.floor

/-- the exponent `e` with `2 ^ e ≤ q < 2 ^ (e + 1)`, for a positive `q` -/
def binaryExponent (q : Rat) : Int :=
  let guess : Int := (Nat.log2 q.num.natAbs : Int) - (Nat.log2 q.den : Int)
  if (2 : Rat) ^ guess ≤ q then guess else guess - 1

/-- a binary floating-point number; `finite` stands for `± mantissa * 2 ^ exponent`, zero having a sign too -/
inductive Double where
  | nan
  | infinity (negative : Bool)
  | finite (negative : Bool) (mantissa : Nat) (exponent : Int)
  deriving DecidableEq, Inhabited

namespace Double

/-- the smallest exponent of a mantissa's last bit -/
def minExponent : Int := -1074

/-- the largest exponent of a mantissa's last bit -/
def maxExponent : Int := 971

/-- zero with the given sign -/
def zero (negative : Bool) : Double := .finite negative 0 minExponent

/-- the number nearest to a positive `q`, with the given sign: mantissas have 53 bits, fewer at the smallest exponent,
and what is too large becomes infinite -/
def nearestMagnitude (negative : Bool) (q : Rat) : Double :=
  let e := max (binaryExponent q - 52) minExponent
  let m := (roundHalfEven (q / (2 : Rat) ^ e)).toNat
  let (m, e) := if m = Nat.pow 2 53 then (Nat.pow 2 52, e + 1) else (m, e)
  if maxExponent < e then .infinity negative else .finite negative m e

/-- the number nearest to `q`; `negativeZero` is the sign of an exact zero -/
def nearest (q : Rat) (negativeZero : Bool) : Double :=
  if q = 0 then zero negativeZero
  else nearestMagnitude (q < 0) q.abs

/-- the number nearest to an integer; infinite when it is too large -/
def ofInt (n : Int) : Double := nearest (n : Rat) false

/-- the exact value of a finite number -/
def toRat? : Double → Option Rat
  | .finite negative m e =>
    let v : Rat := (m : Rat) * (2 : Rat) ^ e
    some (if negative then -v else v)
  | _ => none

/-- the exact value of a finite number, zero for the others -/
def toRat (x : Double) : Rat := x.toRat?.getD 0

/-- the sign bit; a number that is none has no sign -/
def isNegative : Double → Bool
  | .nan => false
  | .infinity negative => negative
  | .finite negative _ _ => negative

/-- zero of either sign -/
def isZero : Double → Bool
  | .finite _ m _ => m == 0
  | _ => false

/-- neither infinite nor without value -/
def isFinite : Double → Bool
  | .finite .. => true
  | _ => false

/-- the number with its sign turned -/
def neg : Double → Double
  | .nan => .nan
  | .infinity negative => .infinity !negative
  | .finite negative m e => .finite (!negative) m e

/-- the sum; two infinities of opposite signs have none -/
def add : Double → Double → Double
  | .nan, _ => .nan
  | _, .nan => .nan
  | .infinity a, .infinity b => if a = b then .infinity a else .nan
  | .infinity a, _ => .infinity a
  | _, .infinity b => .infinity b
  | x@(.finite a ..), y@(.finite b ..) => nearest (x.toRat + y.toRat) (a && b)

/-- the difference -/
def sub (x y : Double) : Double := x.add y.neg

/-- the product; an infinity times zero has none -/
def mul (x y : Double) : Double :=
  let negative := x.isNegative != y.isNegative
  match x, y with
  | .nan, _ => .nan
  | _, .nan => .nan
  | .infinity _, y => if y.isZero then .nan else .infinity negative
  | x, .infinity _ => if x.isZero then .nan else .infinity negative
  | x, y => nearest (x.toRat * y.toRat) negative

/-- the quotient, for a divisor other than zero -/
def div (x y : Double) : Double :=
  let negative := x.isNegative != y.isNegative
  match x, y with
  | .nan, _ => .nan
  | _, .nan => .nan
  | .infinity _, .infinity _ => .nan
  | .infinity _, _ => .infinity negative
  | _, .infinity _ => zero negative
  | x, y => nearest (x.toRat / y.toRat) negative

/-- the order of the values; a number without value is below none and above none -/
def lt : Double → Double → Bool
  | .nan, _ => false
  | _, .nan => false
  | .infinity a, .infinity b => a && !b
  | .infinity a, _ => a
  | _, .infinity b => !b
  | x, y => x.toRat < y.toRat

/-- equality of the values: both zeros are equal, and a number without value equals none, not even itself -/
def same : Double → Double → Bool
  | .nan, _ => false
  | _, .nan => false
  | .infinity a, .infinity b => a == b
  | .infinity _, _ => false
  | _, .infinity _ => false
  | x, y => x.toRat == y.toRat

/-- the number nearest to `± digits * 10 ^ exponent`; exponents far outside the range are settled by size alone -/
def ofDecimal (negative : Bool) (digits : Nat) (exponent : Int) : Double :=
  if digits = 0 then zero negative
  else
    let size : Int := (Nat.log2 digits : Int) * 3 / 10 + exponent
    if 330 < size then .infinity negative
    else if size + (Nat.log2 digits : Int) / 900 + 2 < -400 then zero negative
    else nearestMagnitude negative ((digits : Rat) * (10 : Rat) ^ exponent)

end Double

end AmpArticle
