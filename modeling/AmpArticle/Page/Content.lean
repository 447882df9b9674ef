import AmpArticle.Page.Embed

/-!
The content of an article. Each item becomes one node or none; a text item without text, an item that no filter lets
through and an item of an unknown kind leave nothing behind. Every node is followed by its divider.
-/

namespace AmpArticle.Page

open Markup (Element Node)

variable [Room]

/-- a text in an element of its own -/
def textElement (tag name text : String) : Rendering Element := do
  Rendering.withMarkup (← Rendering.createNamed tag name) text

/-- a quote set apart, with the one it is attributed to -/
def pullquote (text : String) (attribution : Option String) : Rendering Element := do
  let e ← textElement "aside" "pullquote" text
  match present? attribution with
  | none => return e
  | some who =>
    let cite ← Rendering.withMarkup (← Rendering.create "cite" none []) who
    return e.append [cite.toNode]

/-- a list of texts -/
def listing (ordered : Bool) (items : List String) : Rendering Element := do
  let e ← Rendering.createNamed (if ordered then "ol" else "ul") "list"
  let entries ← items.mapM fun text => do
    return (← Rendering.withMarkup (← Rendering.create "li" none []) text).toNode
  return e.append entries

/-- tracking data has no place on a page; it is lost unless the options replace it -/
def tracking (c : Setting) (item : Item) : Rendering Unit :=
  if c.properties.analytics.isEmpty then
    Rendering.warnItem
      "Article has analytics but no AMP analytics were configured, tracking data will be lost." item none
  else return ()

/-- the node of an item, if it shows anything -/
def item (c : Setting) (i : Item) : Rendering (Option Built) := do
  match i with
  | .paragraph text => return some (.ofElement (← textElement "p" "p" text))
  | .heading1 text => return some (.ofElement (← textElement "h1" "h1" text))
  | .heading2 text => return some (.ofElement (← textElement "h2" "h2" text))
  | .list ordered items => return some (.ofElement (← listing ordered items))
  | .blockquote text => return some (.ofElement (← textElement "blockquote" "blockquote" text))
  | .pullquote text attribution => return some (.ofElement (← pullquote text attribution))
  | .image p => return some (← image c p ImageStyle.inText)
  | .animatedImage p => return some (← animatedImage c p)
  | .video p => return some (← video c p "video")
  | .audio .. => return some (.ofElement (← Rendering.createNamed "div" "audio"))
  | .slideshow s => return some (← slideshow c s "slideshow")
  | .interactive content => embed i content "interactive" "Interactive"
  | .socialEmbed content => embed i content "social-embed" "Social embed"
  | .map pin => return some (← map c pin)
  | .relatedArticles .. => return some (.ofElement (← Rendering.createNamed "div" "related-articles"))
  | .analytics .. => do
    tracking c i
    return none
  | .ad ad => advert ad
  | .other _ => return none

/-- a container with an item built at its end, and what was built, if anything was -/
def itemInto (c : Setting) (container : Element) (i : Item) : Rendering (Element × Option Built) := do
  match ← item c i with
  | none => return (container, none)
  | some built => return (container.append built.nodes, some built)

/-- an item on the page: its node as the filters leave it, with its divider -/
def contentPart (c : Setting) (i : Item) : Rendering (List Node) := do
  if i.isBlank then
    Rendering.note [⟨.debug, s!"Skipping blank {i.tag}"⟩]
    return []
  if i matches .other _ then
    Rendering.note [⟨.debug, s!"No AMP builder for {i.recordName}, skipping it"⟩]
    return []
  match ← item c i with
  | none => return []
  | some built =>
    match ← built.filter .articleItem [.item i] with
    | none => return []
    | some built => return built.nodes ++ [← Rendering.divider i.dividerKind]

/-- the items on the page in order -/
def contentParts (c : Setting) : List Item → Rendering (List Node)
  | [] => return []
  | i :: rest => do
    let nodes ← contentPart c i
    return nodes ++ (← contentParts c rest)

/-- the content of an article in its element -/
def content (c : Setting) (items : List Item) : Rendering Element := do
  let e ← Rendering.createNamed "article" "article"
  return e.append (← contentParts c items)

end AmpArticle.Page
