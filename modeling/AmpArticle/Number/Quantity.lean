import AmpArticle.Fault

/-!
Arithmetic on numbers that are whole or not. Whole numbers stay exact; a quotient, or an operation with a number that
is not whole, gives the nearest floating-point number. What has no such number is a fault.
-/

namespace AmpArticle

/-- a whole number or a floating-point number -/
inductive Quantity where
  | int (n : Int)
  | real (x : Double)
  deriving DecidableEq, Inhabited

namespace Quantity

/-- the floating-point number nearest to a quantity -/
def toDouble : Quantity → Except Fault Double
  | .int n =>
    match Double.ofInt n with
    | .infinity _ => .error .intTooLarge
    | x => .ok x
  | .real x => .ok x

/-- the text of a quantity: a whole number has no point -/
def text : Quantity → String
  | .int n => toString n
  | .real x => Layout.literal.render x

/-- the quotient of whole numbers, rounded once -/
def divInt (a b : Int) : Except Fault Double :=
  if b = 0 then .error .divisionByZero
  else
    match Double.nearest ((a : Rat) / (b : Rat)) ((a < 0) != (b < 0)) with
    | .infinity _ => .error .quotientTooLarge
    | x => .ok x

/-- the quotient -/
def div : Quantity → Quantity → Except Fault Double
  | .int a, .int b => divInt a b
  | a, b => do
    let x ← a.toDouble
    let y ← b.toDouble
    if y.isZero then throw .realDivisionByZero
    return x.div y

/-- the product -/
def mul : Quantity → Quantity → Except Fault Quantity
  | .int a, .int b => .ok (.int (a * b))
  | a, b => do
    let x ← a.toDouble
    let y ← b.toDouble
    return .real (x.mul y)

/-- the product with a floating-point number -/
def scale (a : Quantity) (x : Double) : Except Fault Double := do return (← a.toDouble).mul x

end Quantity

namespace Double

/-- the nearest whole number, a tie going to the even one -/
def toNearestInt : Double → Except Fault Int
  | .nan => .error .nanToInt
  | .infinity _ => .error .infinityToInt
  | x => .ok (roundHalfEven x.toRat)

/-- the whole number without the fractional part -/
def toTruncatedInt : Double → Except Fault Int
  | .nan => .error .nanToInt
  | .infinity _ => .error .infinityToInt
  | x => .ok (truncate x.toRat)

/-- the larger of two numbers, the first when the second is not larger -/
def larger (x y : Double) : Double := if x.lt y then y else x

/-- the smaller of two numbers, the first when the second is not smaller -/
def smaller (x y : Double) : Double := if y.lt x then y else x

/-- two -/
def two : Double := ofInt 2

end Double

end AmpArticle
