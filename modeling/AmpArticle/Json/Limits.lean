import AmpArticle.Json.Basic

/-!
Limits of values. A whole number is read and written with a bounded number of digits, and lists and objects are read
and written only as deep as there is room on the stack.
-/

namespace AmpArticle.Json

/-- the number of digits beyond which a whole number is neither read nor written -/
def maxIntDigits : Nat := 4300

/-- a limit that is passed by reading or by writing a value -/
inductive Limit where
  | digitsRead (count : Nat)
  | listRead
  | objectRead
  | digitsWritten
  | levelsWritten
  deriving DecidableEq, Inhabited

namespace Limit

/-- the family of a limit -/
def label : Limit → String
  | digitsRead _ | digitsWritten => "ValueError"
  | listRead | objectRead | levelsWritten => "RecursionError"

/-- what a limit of digits is about -/
def digitsMessage (found : String) : String :=
  s!"Exceeds the limit ({maxIntDigits} digits) for integer string conversion{found}; "
    ++ "use sys.set_int_max_str_digits() to increase the limit"

/-- what a limit of nesting is about -/
def nestingMessage (activity : String) : String := s!"maximum recursion depth exceeded while {activity}"

/-- the wording of a limit -/
def message : Limit → String
  | digitsRead count => digitsMessage s!": value has {count} digits"
  | digitsWritten => digitsMessage ""
  | listRead => nestingMessage "decoding a JSON array from a unicode string"
  | objectRead => nestingMessage "decoding a JSON object from a unicode string"
  | levelsWritten => nestingMessage "getting the repr of an object"

end Limit

/-! ## Reading -/

/-- what a reader can take: whether a whole number may have so many digits behind its sign, and whether so many lists
and objects may be open at once -/
structure Limits where
  number : Bool → Nat → Bool
  levels : Nat → Bool

/-- a reader that can take everything -/
def Limits.unbounded : Limits := ⟨fun _ _ => true, fun _ => true⟩

/-! ## Writing -/

/-- whether a whole number has more digits than are written -/
def isOverlong (n : Int) : Bool := decide (Nat.pow 10 maxIntDigits ≤ n.natAbs)

mutual
/-- the first limit that the literal of a value passes, when there is room for so many levels below the value itself -/
def obstacle? (room : Nat) : Json → Option Limit
  | int n => if isOverlong n then some .digitsWritten else .none
  | list items => itemsObstacle? room items
  | object entries => entriesObstacle? room entries
  | _ => .none

/-- the first limit that is passed among items; each of them takes a level -/
def itemsObstacle? : Nat → List Json → Option Limit
  | _, [] => .none
  | 0, _ :: _ => some .levelsWritten
  | room + 1, item :: rest => (obstacle? room item).or (itemsObstacle? (room + 1) rest)

/-- the first limit that is passed among entries; each of them takes a level -/
def entriesObstacle? : Nat → List (String × Json) → Option Limit
  | _, [] => .none
  | 0, _ :: _ => some .levelsWritten
  | room + 1, (_, value) :: rest => (obstacle? room value).or (entriesObstacle? (room + 1) rest)
end

end AmpArticle.Json
