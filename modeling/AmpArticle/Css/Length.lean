import AmpArticle.Json.Basic

/-!
Numbers and lengths in style sheets. Fractions have at most fourteen significant digits, so that noise from arithmetic
disappears; a length of nothing is written without its unit.
-/

namespace AmpArticle.Css

/-- at most fourteen significant digits -/
def numberLayout : Layout := Layout.general 14

/-- a number as a style sheet has it; other values stand as they are -/
def numberText : Json → String
  | .bool b => if b then "1" else "0"
  | .real x => numberLayout.render x
  | value => value.plain

/-- a length, nothing being `0` -/
def dimension (value : Json) (unit : String) : String :=
  if value.isTruthy then numberText value ++ unit else "0"

/-- lengths of the four sides from the top clockwise -/
def sides (top right bottom left : Json) (unit : String) : String :=
  Text.joinWith " " [dimension top unit, dimension right unit, dimension bottom unit, dimension left unit]

end AmpArticle.Css
