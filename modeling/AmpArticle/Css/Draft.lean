import AmpArticle.Css.Color
import AmpArticle.Css.RuleSet
import AmpArticle.Media.Sizes
import AmpArticle.Number.Reader
import AmpArticle.Room
import AmpArticle.Warning

/-!
What reading a style description leaves behind: declarations for the rules, warnings, and the log. A part of a
description adds to the end of all of them and looks at none.
-/

namespace AmpArticle.Css

/-- a property of a selector with its value -/
structure Declaration where
  selector : String
  property : String
  value : String
  deriving DecidableEq, Inhabited

/-- declarations, warnings and log so far -/
structure Draft where
  declarations : List Declaration
  warnings : List Warning
  log : List Media.LogLine
  deriving Inhabited

/-- a step of reading: it may fail, and otherwise adds to the draft -/
abbrev Drafting (α : Type) := StateT Draft (Except Fault) α

namespace Draft

/-- nothing yet -/
def empty : Draft := ⟨[], [], []⟩

/-- the declarations set in a rule set one after the other -/
def declareIn (d : Draft) (rules : RuleSet) : RuleSet :=
  d.declarations.foldl (fun r x => r.set x.selector x.property x.value) rules

end Draft

namespace Drafting

/-- adds a declaration -/
def declare (selector property value : String) : Drafting Unit :=
  modify fun d => { d with declarations := d.declarations ++ [⟨selector, property, value⟩] }

/-- adds log lines -/
def note (lines : List Media.LogLine) : Drafting Unit := modify fun d => { d with log := d.log ++ lines }

/-- adds a warning, which is logged too -/
def warn (message : String) (subject : Json) (cause : Option Fault) : Drafting Unit :=
  modify fun d => { d with
    warnings := d.warnings ++ [.about message subject cause]
    log := d.log ++ [⟨.warning, message⟩] }

/-- a colour, or none after a warning -/
def color (value : Json) (name : String) : Drafting (Option String) :=
  match value with
  | .null => return none
  | value =>
    match toRgb value with
    | .ok rgb => return some rgb
    | .error fault => do
      warn s!"Invalid color for {name}: {fault.message}" value (some fault)
      return none

/-- whether a failure to read a number is only worth a warning; a number out of range is not -/
def isMild : Fault → Bool
  | .notNumber _ | .notNumberText _ => true
  | _ => false

/-- a number, or none after a warning; a truth value is no number -/
def number [Room] (value : Json) (name : String) : Drafting (Option Double) :=
  let value : Json := match value with
    | .bool _ => .null
    | v => v
  match value.toDouble with
  | .ok x => return some x
  | .error fault => do
    if !isMild fault then throw fault
    let shown ← liftM (value.literalAt (.entry name))
    warn s!"Invalid number for {name}: {shown}" value (some fault)
    return none

end Drafting

end AmpArticle.Css
