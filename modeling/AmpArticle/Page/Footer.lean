import AmpArticle.Page.Rendering

/-!
The footer of a page: credits and a copyright line. A footer that says nothing is left out.
-/

namespace AmpArticle.Page

open Markup (Element Node)

/-- the credits in an element of their own, a paragraph for each text of a list -/
def creditsPart (credits : Option Credits) : Rendering (List Node) := do
  match credits.filter Credits.isPresent with
  | none => return []
  | some credits =>
    let e ← Rendering.createNamed "aside" "footer-credits"
    match credits with
    | .single text => return [(← Rendering.withMarkup e text).toNode]
    | .paragraphs texts =>
      let lines ← texts.mapM fun text => do
        return (← Rendering.withMarkup (← Rendering.create "p" none []) text).toNode
      return [(e.append lines).toNode]

/-- the copyright line, when there is one -/
def copyrightPart (copyright : Option String) : Rendering (List Node) := do
  match copyright.filter fun s => !s.isEmpty with
  | none => return []
  | some text =>
    return [(← Rendering.withMarkup (← Rendering.createNamed "small" "footer-copyright") text).toNode]

/-- the footer as the filters leave it -/
def footer (given : Option Footer) : Rendering (Option Built) := do
  match given.filter Footer.isPresent with
  | none => return none
  | some f =>
    let e ← Rendering.createNamed "footer" "footer"
    let credits ← creditsPart f.credits
    let copyright ← copyrightPart f.copyright
    (Built.ofElement (e.append (credits ++ copyright))).filter .footer [.thing "Footer"]

end AmpArticle.Page
