import AmpArticle.Css.Logo
import AmpArticle.Page.Byline
import AmpArticle.Page.Image

/-!
The header of a page: cover, bar, kicker, title, subtitle, byline and date in this order, each followed by its divider.
The bar and the date line are empty at first. What goes into them depends on the style, which is read later; their
marks tell where it goes, wherever the filters have left them.
-/

namespace AmpArticle.Page

open Markup (Element Node Mark)

/-- a cover: an image fills a box of its own, a video and a slideshow are shown as in the content -/
def cover (c : Setting) : Cover → Rendering Built
  | .image p => image c p ImageStyle.cover
  | .video p => video c p "header-cover-video"
  | .slideshow s => slideshow c s "header-cover-slideshow"

/-- the cover as the filters leave it, with its divider -/
def coverPart (c : Setting) (given : Option Cover) : Rendering (List Node) := do
  match given with
  | none => return []
  | some given =>
    match ← (← cover c given).filter .cover [.item given.toItem] with
    | none => return []
    | some built => return built.nodes ++ [← Rendering.divider "header-cover"]

/-- an element with its divider -/
def withDivider (e : Element) (kind : String) : Rendering (List Node) := do
  return [e.toNode, ← Rendering.divider kind]

/-- the empty bar -/
def barPart : Rendering (List Node) := do
  let e ← Rendering.createNamed "div" "header-bar"
  withDivider { e with mark := some .logoBar } "header-bar"

/-- a line of markup, when there is any -/
def linePart (tag kind : String) (markup : Option String) : Rendering (List Node) := do
  match markup.filter fun s => !s.isEmpty with
  | none => return []
  | some markup => withDivider (← Rendering.withMarkup (← Rendering.createNamed tag kind) markup) kind

/-- the line that names the authors, when any has a name -/
def bylinePart (authors : List Author) : Rendering (List Node) := do
  let line := byline authors
  if line.isEmpty then return []
  let e ← Rendering.createNamed "h3" "header-author"
  withDivider (← liftM (e.setText line)) "header-author"

/-- the empty date line, when there is a date -/
def datePart (published : Option Moment) : Rendering (List Node) := do
  if published.isNone then return []
  let e ← Rendering.createNamed "h3" "header-date"
  withDivider { e with mark := some .dateLine } "header-date"

/-- the parts of a header in order -/
def headerParts (c : Setting) (h : Header) : Rendering (List Node) := do
  let coverNodes ← coverPart c h.cover
  let bar ← barPart
  let kicker ← linePart "h2" "header-category" h.kicker
  let title ← linePart "h1" "header-h1" h.title
  let subtitle ← linePart "h2" "header-subtitle" h.subtitle
  let authors ← bylinePart h.authors
  let date ← datePart h.published
  return coverNodes ++ bar ++ kicker ++ title ++ subtitle ++ authors ++ date

/-- the header as the filters leave it -/
def header (c : Setting) (h : Header) : Rendering (Option Built) := do
  let e ← Rendering.createNamed "header" "header"
  (Built.ofElement (e.append (← headerParts c h))).filter .header [.thing "Header"]

/-- the nodes with the logo in the bar -/
def placeLogo (logo : Option Css.Logo) (nodes : List Node) : Rendering (List Node) := do
  match logo with
  | none => return nodes
  | some logo =>
    let holder ← Rendering.createNamed "div" "header-bar-img-container"
    let picture ← Rendering.create "amp-img" none
      [("src", logo.url.plain), ("width", intText logo.width), ("height", intText logo.height)]
    let box := (holder.append [picture.toNode]).toNode
    return Node.mapMarkedAll .logoBar (fun e => e.append [box]) nodes

/-- the nodes with the date in the date line, written by a pattern -/
def placeDate (published : Option Moment) (pattern : String) (nodes : List Node) : Rendering (List Node) := do
  match published with
  | none => return nodes
  | some moment =>
    let line := dateText (some moment) pattern
    liftM (Markup.checkText line)
    let text := if line.isEmpty then [] else [Node.text line]
    return Node.mapMarkedAll .dateLine (fun e => { e with children := text ++ Node.dropText e.children }) nodes

end AmpArticle.Page
