import AmpArticle.Css.Draft

/-!
The logo of a style description: a picture scaled to fit the bar at the top of a page.
-/

namespace AmpArticle.Css

/-- a picture with its scaled size; the address is what the description has there -/
structure Logo where
  url : Json
  width : Int
  height : Int
  deriving Inhabited

namespace Logo

open Drafting

variable [Room]

/-- the width that a logo may have -/
def maxWidth : Quantity := .int 132

/-- the height that a logo may have -/
def maxHeight : Quantity := .int 26

/-- the size of a picture as it is known before scaling -/
abbrev Extent := Quantity × Quantity

/-- whether a length is known and not zero -/
def isLength : Option Double → Bool
  | some x => !x.isZero
  | none => false

/-- a length that the description gives, if it is a number -/
def length (block : List (String × Json)) (key : String) : Drafting (Option Double) :=
  match lookup? key block with
  | some v => number v s!"header.logo.{key}"
  | none => return none

/-- where the address of a logo is written into a warning -/
def addressPlace : Place := .entry "header.logo.url"

/-- the extent that is found at the address; nothing has no extent -/
def found? (resolve? : Option (Json → Except Fault Media.Lookup)) (block : List (String × Json)) (url : Json) :
    Drafting (Option Extent) :=
  match resolve? with
  | none => do
    let shown ← liftM (url.plainAt addressPlace)
    warn s!"Could not size header logo {shown}, ignoring it." (.object block) none
    return none
  | some resolve => do
    let found ← resolve url
    note found.log
    if found.size.width = 0 ∨ found.size.height = 0 then
      let shown ← liftM (url.plainAt addressPlace)
      warn s!"Header logo {shown} has no size, ignoring it." (.object block) none
      return none
    else return some (.int found.size.width, .int found.size.height)

/-- the extent that the description gives, or the one that is found at the address -/
def extent? (resolve? : Option (Json → Except Fault Media.Lookup)) (block : List (String × Json)) (url : Json) :
    Drafting (Option Extent) := do
  let width ← length block "width"
  let height ← length block "height"
  if isLength width && isLength height then return some (.real (width.getD .nan), .real (height.getD .nan))
  else found? resolve? block url

/-- the size that fits the bar, times the scale that the description asks for -/
def scaled (url : Json) (extent : Extent) (logoScale : Double) : Except Fault Logo := do
  let fit := Double.smaller (← maxHeight.div extent.2) (← maxWidth.div extent.1)
  let scale := logoScale.mul fit
  return ⟨url, ← (← extent.1.scale scale).toNearestInt, ← (← extent.2.scale scale).toNearestInt⟩

/-- a logo with an address, when its extent is known -/
def sized (resolve? : Option (Json → Except Fault Media.Lookup)) (header block : List (String × Json)) (url : Json) :
    Drafting (Option Logo) := do
  match ← extent? resolve? block url with
  | none => return none
  | some extent =>
    let scale ← number ((lookup? "logo_scale" header).getD (.real (Double.ofInt 1))) "header.logo_scale"
    return some (← scaled url extent (scale.getD (Double.ofInt 1)))

/-- the description of a logo; a text stands for an object with that address -/
def spelledOut : Json → Json
  | .text s => .object [("url", .text s)]
  | v => v

/-- the logo of a header block -/
def ofHeader (resolve? : Option (Json → Except Fault Media.Lookup)) (header : List (String × Json)) :
    Drafting (Option Logo) :=
  match spelledOut ((lookup? "logo" header).getD .null) with
  | .null => return none
  | .object block =>
    let url := (lookup? "url" block).getD .null
    if url.isTruthy then sized resolve? header block url
    else do
      warn "Header logo has no url, ignoring it." (.object block) none
      return none
  | v => do
    warn "Header logo has no url, ignoring it." v none
    return none

end Logo

end AmpArticle.Css
