import AmpArticle.Css.ClassNames
import AmpArticle.Css.Length

/-!
Rules of a style sheet while they accumulate: declarations under selectors. A selector keeps the place of its first
use, a property under it likewise, and the last value written counts. Nothing is escaped.
-/

namespace AmpArticle.Css

/-- what makes two keys the same: numbers by their value, whatever they are written as -/
inductive KeyIdentity where
  | text (s : String)
  | null
  | whole (n : Int)
  | real (x : Double)
  deriving DecidableEq, Inhabited

/-- a selector or a property: what it is, and how it was first spelled -/
structure Key where
  identity : KeyIdentity
  spelling : String
  deriving DecidableEq, Inhabited

namespace Key

/-- a key that is a text -/
def ofText (s : String) : Key := ⟨.text s, s⟩

/-- the identity of a number with a fraction or an exponent -/
def realIdentity (x : Double) : KeyIdentity :=
  match x.toRat? with
  | some q => if q.den = 1 then .whole q.num else .real x
  | none => .real x

/-- a decoded value as a key; lists and objects are none -/
def ofJson (value : Json) : Except Fault Key :=
  match value with
  | .text s => .ok (ofText s)
  | .null => .ok ⟨.null, value.plain⟩
  | .bool b => .ok ⟨.whole (if b then 1 else 0), value.plain⟩
  | .int n => .ok ⟨.whole n, value.plain⟩
  | .real x => .ok ⟨realIdentity x, value.plain⟩
  | .list _ | .object _ => .error (.unhashable value.kindName)

end Key

/-- the declarations under one selector -/
abbrev Declarations := List (Key × String)

/-- declarations with a value set -/
def Declarations.set (property : Key) (value : String) : Declarations → Declarations
  | [] => [(property, value)]
  | (k, v) :: rest =>
    if k.identity = property.identity then (k, value) :: rest else (k, v) :: Declarations.set property value rest

/-- accumulated rules, with the prefix of class names and the class of spacing dividers -/
structure RuleSet where
  classPrefix : String
  spacing : String
  blocks : List (Key × Declarations)
  deriving Inhabited

namespace RuleSet

/-- the usual prefix of class names -/
def defaultPrefix : String := "ia2amp-"

/-- the usual class of a spacing divider -/
def spacingClass : String := "spacing"

/-- no rules yet -/
def empty (classPrefix : String) : RuleSet := ⟨classPrefix, spacingClass, []⟩

/-- blocks with the declarations under a selector changed, an unused selector beginning without any -/
def modifyBlock (selector : Key) (f : Declarations → Declarations) : List (Key × Declarations) → List (Key × Declarations)
  | [] => [(selector, f [])]
  | (k, ds) :: rest =>
    if k.identity = selector.identity then (k, f ds) :: rest else (k, ds) :: modifyBlock selector f rest

/-- a value set under a selector -/
def setKey (r : RuleSet) (selector property : Key) (value : String) : RuleSet :=
  { r with blocks := modifyBlock selector (Declarations.set property value) r.blocks }

/-- a value set under a selector, both given as texts -/
def set (r : RuleSet) (selector property value : String) : RuleSet :=
  r.setKey (.ofText selector) (.ofText property) value

/-- what a call leaves behind: the rules, and why it failed if it did -/
structure Outcome where
  rules : RuleSet
  fault : Option Fault

/-- a value set under a selector given as any decoded value; the selector is entered before the property is looked at -/
def addProperty (r : RuleSet) (selector property value : Json) : Outcome :=
  match Key.ofJson selector with
  | .error fault => ⟨r, some fault⟩
  | .ok s =>
    match Key.ofJson property with
    | .error fault => ⟨{ r with blocks := modifyBlock s id r.blocks }, some fault⟩
    | .ok p => ⟨r.setKey s p value.plain, none⟩

/-- a value set under the selector of class names -/
def addToSelector (r : RuleSet) (names : ClassNames) (property value : Json) : Outcome :=
  match names.selector r.classPrefix with
  | .error fault => ⟨r, some fault⟩
  | .ok s => r.addProperty (.text s) property value

/-- a length set under the selector of class names -/
def addDimension (r : RuleSet) (names : ClassNames) (property value : Json) (unit : String) : Outcome :=
  r.addToSelector names property (.text (dimension value unit))

/-- lengths of four sides set under the selector of class names -/
def addSides (r : RuleSet) (names : ClassNames) (property top right bottom left : Json) (unit : String) : Outcome :=
  r.addToSelector names property (.text (sides top right bottom left unit))

/-- the height of the spacing divider behind elements of the class names -/
def addHeightSpacing (r : RuleSet) (names : ClassNames) (height : Json) (unit : String) : Outcome :=
  match names.selector r.classPrefix with
  | .error fault => ⟨r, some fault⟩
  | .ok s =>
    r.addProperty (.text (s ++ " + ." ++ r.classPrefix ++ r.spacing)) (.text "height") (.text (dimension height unit))

/-- a call that writes into rules -/
inductive Call where
  | property (selector property value : Json)
  | names (names : ClassNames) (property value : Json)
  | dimension (names : ClassNames) (property value : Json) (unit : String)
  | sides (names : ClassNames) (property top right bottom left : Json) (unit : String)
  | heightSpacing (names : ClassNames) (height : Json) (unit : String)
  deriving Inhabited

/-- what a call leaves behind -/
def perform (r : RuleSet) : Call → Outcome
  | .property selector property value => r.addProperty selector property value
  | .names names property value => r.addToSelector names property value
  | .dimension names property value unit => r.addDimension names property value unit
  | .sides names property top right bottom left unit => r.addSides names property top right bottom left unit
  | .heightSpacing names height unit => r.addHeightSpacing names height unit

/-- a class name behind its prefix -/
def className (r : RuleSet) (name : String) : String := r.classPrefix ++ name

/-- whether no selector has a declaration -/
def isEmpty (r : RuleSet) : Bool := r.blocks.all fun b => b.2.isEmpty

/-- the declarations of a block, one a line when they are formatted -/
def declarationsText (formatted : Bool) : Declarations → String
  | [] => ""
  | (property, value) :: rest =>
    (if formatted then "    " else "") ++ property.spelling ++ ": " ++ value ++ ";" ++ (if formatted then "\n" else "")
      ++ declarationsText formatted rest

/-- a block: its selector and its declarations in braces -/
def blockText (formatted : Bool) (block : Key × Declarations) : String :=
  block.1.spelling ++ " \x7b" ++ (if formatted then "\n" else "") ++ declarationsText formatted block.2 ++ "\x7d"

/-- the style sheet: every selector that has a declaration, dense or with blank lines between blocks -/
def build (r : RuleSet) (formatted : Bool) : String :=
  Text.joinWith (if formatted then "\n\n" else "") <|
    (r.blocks.filter fun b => !b.2.isEmpty).map (blockText formatted)

end RuleSet

end AmpArticle.Css
