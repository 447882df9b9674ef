import AmpArticle.Css.Draft
import AmpArticle.Text.Letters

/-!
Text styles: blocks of a style description that say how one kind of text looks. Each key of a block becomes
declarations under the selectors of that text, in a fixed order whatever the order of the keys.
-/

namespace AmpArticle.Css

/-- the sides of a box, from the top clockwise -/
def directions : List String := ["top", "right", "bottom", "left"]

/-- the lengths that names of spacing sizes stand for -/
def spacingSizes : List (String × Quantity) :=
  [("NONE", .int 0), ("DOCUMENT_MARGIN", .real (Double.ofDecimal false 164 (-1))), ("EXTRA_SMALL", .int 16),
    ("SMALL", .int 32), ("MEDIUM", .int 46), ("LARGE", .int 64), ("EXTRA_LARGE", .int 96)]

/-- what names of capitalizations stand for -/
def capitalizations : List (String × String) :=
  [("ALL_CAPS", "uppercase"), ("ALL_LOWER_CASE", "lowercase"), ("NONE", "none")]

/-- the entry that a value names; lists and objects name nothing, and asking for them fails -/
def named? {α : Type} (table : List (String × α)) (name : Json) : Except Fault (Option α) :=
  match name with
  | .text s => .ok (lookup? s table)
  | .list _ | .object _ => .error (.unhashable name.kindName)
  | _ => .ok none

/-- a text style: its selectors, its entries, and its name in warnings -/
structure TextStyle where
  selector : String
  block : List (String × Json)
  name : String
  deriving Inhabited

namespace TextStyle

open Drafting

variable [Room]

/-- an entry of the block, null when it is missing -/
def entry (t : TextStyle) (key : String) : Json := (lookup? key t.block).getD .null

/-- where an entry of the block is written into a text -/
def place (t : TextStyle) (key : String) : Place := .entry s!"{t.name}.{key}"

/-- a declaration for the text -/
def declare (t : TextStyle) (property value : String) : Drafting Unit := Drafting.declare t.selector property value

/-- the family of letters -/
def font (t : TextStyle) : Drafting Unit :=
  match lookup? "font" t.block with
  | some v => do t.declare "font-family" (← liftM (v.plainAt (t.place "font")))
  | none => return ()

/-- an entry that becomes a property in small letters -/
def lowerCased (t : TextStyle) (key property : String) : Drafting Unit :=
  match lookup? key t.block with
  | some v => do t.declare property (Text.lower (← liftM (v.plainAt (t.place key))))
  | none => return ()

/-- the capitalization -/
def capitalization (t : TextStyle) : Drafting Unit :=
  match lookup? "capitalization" t.block with
  | none => return ()
  | some v => do
    match ← named? capitalizations v with
    | some transform => t.declare "text-transform" transform
    | none =>
      let shown ← liftM (v.plainAt (t.place "capitalization"))
      warn s!"Unknown capitalization in {t.name}: {shown}" (.object t.block) none

/-- the underline: any kind but none -/
def underline (t : TextStyle) : Drafting Unit :=
  match t.entry "underline" with
  | .null | .text "NONE" => return ()
  | _ => t.declare "text-decoration" "underline"

/-- a colour -/
def color (t : TextStyle) (key property : String) : Drafting Unit := do
  match ← Drafting.color (t.entry key) s!"{t.name}.{key}" with
  | some rgb => t.declare property rgb
  | none => return ()

/-- a hundred -/
def hundred : Double := Double.ofInt 100

/-- a scale, as a percentage -/
def scale (t : TextStyle) (key property : String) : Drafting Unit :=
  match lookup? key t.block with
  | none => return ()
  | some v => do
    match ← number v s!"{t.name}.{key}" with
    | some x => t.declare property (numberText (.real (x.mul hundred)) ++ "%")
    | none => return ()

/-- the length of one side of a spacing; none gives up the whole spacing -/
def spacingSide (side : Json) (name direction : String) : Drafting (Option Json) :=
  match side with
  | .object entries => do
    let size := (lookup? "size" entries).getD (.text "NONE")
    match ← named? spacingSizes size with
    | none =>
      let shown ← liftM (size.plainAt (.entry s!"{name}.{direction}.size"))
      warn s!"Unknown size {shown} in {name}.{direction}" side none
      return some (.int 0)
    | some length =>
      let factor := (lookup? "scaling_factor" entries).getD (.real (Double.ofInt 1))
      match ← number factor s!"{name}.{direction}" with
      | some x => return some (.real (← length.scale x))
      | none => return none
  | side => do
    if side.isTruthy then warn s!"Spacing {name}.{direction} must be an object" side none
    return some (.int 0)

/-- the lengths of the sides of a spacing -/
def spacingSides (sides : List (String × Json)) (name : String) : List String → Drafting (Option (List Json))
  | [] => return some []
  | direction :: rest => do
    match ← spacingSide ((lookup? direction sides).getD .null) name direction with
    | none => return none
    | some length =>
      match ← spacingSides sides name rest with
      | some lengths => return some (length :: lengths)
      | none => return none

/-- four lengths as one value -/
def sidesText (lengths : List Json) : String := Text.joinWith " " (lengths.map fun x => dimension x "px")

/-- the spacing outside or inside the box -/
def spacing (t : TextStyle) (property : String) : Drafting Unit :=
  match t.entry property with
  | .null => return ()
  | .object sides => do
    match ← spacingSides sides s!"{t.name}.{property}" directions with
    | some lengths => t.declare property (sidesText lengths)
    | none => return ()
  | v => warn s!"Spacing {t.name}.{property} must be an object, ignoring it." v none

/-- the width and the colour of one side of a border -/
def borderSide (t : TextStyle) (sides : List (String × Json)) (direction : String) :
    Drafting (Json × Option String) :=
  match lookup? direction sides with
  | some (.object side) => do
    let width ← number ((lookup? "width" side).getD (.int 0)) s!"{t.name}.border.{direction}.width"
    let rgb ← Drafting.color ((lookup? "color" side).getD .null) s!"{t.name}.border.{direction}.color"
    return ((width.map Json.real).getD (.int 0), rgb)
  | _ => return (.int 0, none)

/-- the border -/
def border (t : TextStyle) : Drafting Unit :=
  match t.entry "border" with
  | .null => return ()
  | .object sides => do
    let found ← directions.mapM fun direction => return (direction, ← t.borderSide sides direction)
    t.declare "border-width" (sidesText (found.map fun s => s.2.1))
    t.declare "border-style" "solid"
    found.forM fun s =>
      match s.2.2 with
      | some rgb => t.declare ("border-" ++ s.1 ++ "-color") rgb
      | none => return ()
  | v => warn s!"Border in {t.name} must be an object, ignoring it." v none

/-- the parts of a text style in the order of their declarations -/
def parts (t : TextStyle) : List (Drafting Unit) :=
  [t.font, t.lowerCased "text_alignment" "text-align", t.lowerCased "display" "display", t.capitalization, t.underline,
    t.color "color" "color", t.color "background_color" "background-color", t.scale "text_size_scale" "font-size",
    t.scale "line_height_scale" "line-height", t.spacing "margin", t.spacing "padding", t.border]

/-- the whole text style -/
def draft (t : TextStyle) : Drafting Unit := t.parts.forM id

end TextStyle

end AmpArticle.Css
