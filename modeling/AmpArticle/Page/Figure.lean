import AmpArticle.Page.Rendering

/-!
Captions, and the figures that hold a captioned element. A caption stands below its element unless it says otherwise.
-/

namespace AmpArticle.Page

open Markup (Element Node)

/-- the class names of a caption: its size, small when it says nothing, then its alignments and place -/
def captionClasses (c : Caption) : List String :=
  ["figcaption", (c.fontSize.getD .small).className]
    ++ (c.lines.map LineAlignment.className).toList
    ++ (c.place.map CaptionPlace.className).toList
    ++ (c.block.map BlockAlignment.className).toList

/-- a part of a caption in an element of its own, when it says anything -/
def captionPart (e : Element) (tag : String) (markup : Option String) : Rendering Element := do
  match markup with
  | none => return e
  | some markup =>
    if markup.isEmpty then return e
    let part ← Rendering.withMarkup (← Rendering.create tag none []) markup
    return e.append [part.toNode]

/-- the element of a caption: title, subtitle, text and credit -/
def caption (c : Caption) : Rendering Element := do
  let e ← Rendering.create "figcaption" (some (.many ((captionClasses c).map .name))) []
  let e ← captionPart e "h1" c.title
  let e ← captionPart e "h2" c.subtitle
  let e ← Rendering.withMarkup e c.text
  captionPart e "cite" c.credit

/-- an element inside a figure when it has a caption -/
def figure (e : Element) (c : Option Caption) : Rendering Built := do
  match c with
  | none => return .ofElement e
  | some c =>
    let holder ← Rendering.createNamed "figure" "figure"
    let below ← caption c
    Rendering.note [⟨.debug, s!"Captioned <{e.tag}> in a figure"⟩]
    return .ofElement <| holder.append <|
      if c.place = some .above then [below.toNode, e.toNode] else [e.toNode, below.toNode]

end AmpArticle.Page
