import AmpArticle.Number.Reader
import AmpArticle.Room

/-!
Positions of geotags. A geotag is a feature, or a collection whose first feature counts; it may be given as JSON text.
Its coordinates begin with longitude and latitude.
-/

namespace AmpArticle.Geo

/-- a place on the globe -/
structure Position where
  longitude : Double
  latitude : Double
  deriving DecidableEq, Inhabited

variable [Room]

/-- the value of a geotag; a text is read -/
def valueOf (geotag : Json) : Except Fault Json :=
  match geotag with
  | .text s => (Json.load .geotagText s).mapError (Json.Unread.fault (.geotagText s))
  | v => .ok v

/-- the entries of an object; what is none is blamed, and quoted -/
def entriesOf (value : Json) : Except Fault (List (String × Json)) :=
  match value with
  | .object entries => .ok entries
  | v => do
    let _ ← v.plainAt .geotag
    throw (.geotagKind v)

/-- the entries of a geotag -/
def decode (geotag : Json) : Except Fault (List (String × Json)) := do entriesOf (← valueOf geotag)

/-- the first of the features of a collection, when it is an object -/
def firstFeature? (features : Json) : Except Fault (Option (List (String × Json))) :=
  if !features.isTruthy then .ok none
  else
    match features with
    | .list (.object entries :: _) => .ok (some entries)
    | .list _ | .text _ => .ok none
    | .object _ => .error (.key "0")
    | v => .error (.type s!"'{v.kindName}' object is not subscriptable")

/-- the feature of a geotag -/
def feature? (entries : List (String × Json)) : Except Fault (Option (List (String × Json))) :=
  match lookup? "type" entries with
  | some (.text "FeatureCollection") => firstFeature? ((lookup? "features" entries).getD .null)
  | _ => .ok (some entries)

/-- a coordinate among others; what is no number is blamed together with them, a number out of range is a fault of its
own -/
def coordinate (coordinates x : Json) : Except Fault Double :=
  match x.toDouble with
  | .ok x => .ok x
  | .error (.notNumber _) | .error (.notNumberText _) => do
    let _ ← coordinates.plainAt .coordinates
    throw (.geotagCoordinates coordinates)
  | .error fault => .error fault

/-- the position of a feature, if it has coordinates -/
def position? (feature : List (String × Json)) : Except Fault (Option Position) :=
  match lookup? "geometry" feature with
  | some (.object geometry) =>
    match lookup? "coordinates" geometry with
    | some (.list (x :: y :: rest)) => do
      let longitude ← coordinate (.list (x :: y :: rest)) x
      let latitude ← coordinate (.list (x :: y :: rest)) y
      return some ⟨longitude, latitude⟩
    | _ => .ok none
  | _ => .ok none

/-- the position of a geotag, if it has one -/
def ofGeotag (geotag : Option Json) : Except Fault (Option Position) :=
  match geotag with
  | none | some .null => .ok none
  | some v => do
    match ← feature? (← decode v) with
    | some feature => position? feature
    | none => return none

/-- whether a fault says that a geotag does not have its format -/
def isFormatFault : Fault → Bool
  | .geotagText .. | .geotagKind _ | .geotagCoordinates _ => true
  | _ => false

end AmpArticle.Geo
