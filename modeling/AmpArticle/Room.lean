import AmpArticle.Fault

/-!
Room for values. How deep a value may be nested where it is read from a text, or written into one, depends on how much
of the stack the program has taken by then. That differs from place to place and is given from outside.
-/

namespace AmpArticle

/-- a place where a value is read from a text, or written into one -/
inductive Place where
  | geotagText
  | geotag
  | coordinates
  | styleFile
  | optionsFile
  | optionStyleFile
  /-- an entry of a style description -/
  | entry (name : String)
  deriving DecidableEq, Inhabited

/-- how many levels of nesting there is room for at each place -/
class Room where
  levels : Place → Nat

namespace Room

/-- the levels of a stack that nothing has been put on -/
def stackLevels : Nat := 1000

/-- the levels that are taken where the program gets to a place -/
def taken : Place → Nat
  | .geotagText => 12
  | .geotag | .coordinates => 9
  | .styleFile => 10
  | .optionsFile | .optionStyleFile => 8
  | .entry _ => 10

/-- the room there is when the program has been started on its own -/
@[reducible] def usual : Room := ⟨fun place => stackLevels - taken place⟩

end Room

variable [Room]

/-- the limits of reading at a place -/
def Place.limits (place : Place) : Json.Limits :=
  ⟨fun _ digits => digits ≤ Json.maxIntDigits, fun levels => levels ≤ Room.levels place⟩

namespace Json

/-- why a text is not read, as a fault -/
def Unread.fault (ofError : ReadError → Fault) : Unread → Fault
  | .malformed error => ofError error
  | .beyond limit => .limit limit

/-- the value of a text that is read at a place -/
def load (place : Place) (s : String) : Except Unread Json := readWithin place.limits s

/-- a text that is made of a value at a place -/
def writtenAt (place : Place) (v : Json) (text : Json → String) : Except Fault String :=
  match v.obstacle? (Room.levels place) with
  | some limit => .error (.limit limit)
  | none => .ok (text v)

/-- the value inside a running text that is made at a place -/
def plainAt (place : Place) (v : Json) : Except Fault String := v.writtenAt place plain

/-- the literal of a value that is made at a place -/
def literalAt (place : Place) (v : Json) : Except Fault String := v.writtenAt place literal

end Json

end AmpArticle
