import AmpArticle.Geo.Position
import AmpArticle.Page.Image
import AmpArticle.Url.Query

/-!
Embedded content: frames for a source address or for markup of their own, markup taken over into the page, and maps. A
frame with an address may act in the name of that address; one with markup may only run scripts.
-/

namespace AmpArticle.Page

open Markup (Element Node)

/-- what a frame shows: the content of an address, or a document of its own -/
inductive FrameContent where
  | address (url : String)
  | document (markup : String)
  deriving DecidableEq, Inhabited

/-- what the content of a frame may do, and where it comes from, as attributes -/
def FrameContent.attributes : FrameContent → List (String × String)
  | .address url => [("sandbox", "allow-scripts allow-same-origin"), ("src", url)]
  | .document markup => [("sandbox", "allow-scripts"), ("srcdoc", markup)]

/-- the length of a side of a frame: the given one unless it is missing or zero -/
def frameSide (given : Option Int) (usual : Int) : Int :=
  match given with
  | some n => if n = 0 then usual else n
  | none => usual

/-- a frame -/
def frame (name : String) (width height : Option Int) (content : FrameContent) : Rendering Element := do
  Rendering.useFeature .iframe
  Rendering.create "amp-iframe" (some (.name name)) <|
    [("width", intText (frameSide width Media.defaultWidth)),
      ("height", intText (frameSide height Media.defaultHeight)), ("layout", "responsive"), ("frameborder", "0")]
      ++ content.attributes

/-- the text, unless it is missing or empty -/
def present? (s : Option String) : Option String := s.filter fun s => !s.isEmpty

/-- markup taken over: a single piece that is no text as it is, anything else inside an element of its own -/
def imported (name markup : String) : Rendering Built := do
  let nodes ← liftM (Markup.fragments markup)
  match nodes with
  | first :: rest =>
    if Markup.pieceCount nodes = 1 && !first.isText then return ⟨first, rest⟩
  | [] => pure ()
  return .ofElement (← Rendering.withMarkup (← Rendering.createNamed "div" name) markup)

/-- embedded content: a frame for its source with its caption, else its markup, else nothing after a warning -/
def embed (item : Item) (content : Embed) (name label : String) : Rendering (Option Built) := do
  match present? content.source, present? content.html with
  | some source, _ =>
    let url ← securedAddress source label
    return some (← figure (← frame name content.width content.height (.address url)) content.caption)
  | none, some markup => return some (← imported name markup)
  | none, none =>
    Rendering.warnItem s!"{label} without source nor markup, skipping it." item none
    return none

/-- an advertisement: a frame for its source or for its markup, else nothing after a warning -/
def advert (ad : Advert) : Rendering (Option Built) := do
  match present? ad.source, present? ad.html with
  | some source, _ =>
    let url ← securedAddress source "Ad"
    return some (.ofElement (← frame "ad" ad.width ad.height (.address url)))
  | none, some markup => return some (.ofElement (← frame "ad" ad.width ad.height (.document markup)))
  | none, none =>
    Rendering.warnItem "Ad without source nor markup, skipping it." (.ad ad) none
    return none

/-- where maps are embedded from -/
def mapsAddress : String := "https://www.google.com/maps/embed/v1/place"

/-- a position as latitude and longitude -/
def positionText (p : Geo.Position) : String :=
  Layout.literal.render p.latitude ++ "," ++ Layout.literal.render p.longitude

/-- the address of a map around a position -/
def mapAddress (key : String) (p : Geo.Position) : String :=
  mapsAddress ++ "?" ++ Url.query [("key", key), ("q", positionText p)]

/-- an empty box in the place of a map, after a warning that says why -/
def emptyMap (pin : MapPin) (message : String) (cause : Option Fault) : Rendering Built := do
  Rendering.warnItem message (.map pin) cause
  return .ofElement (← Rendering.createNamed "div" "map")

/-- the key for maps as the filters leave it; nothing when it is empty -/
def mapsKey? (c : Setting) : Rendering (Option String) := do
  let given : Json := match c.properties.mapsKey with
    | some key => .text key
    | none => .null
  match ← Rendering.filter .mapsApiKey (.plain given) [] with
  | .plain v => return if v.isTruthy then some v.plain else none
  | v => return some v.shown

/-- a map around the position of its geotag, an empty box when there is no key or no position -/
def map [Room] (c : Setting) (pin : MapPin) : Rendering Built := do
  match ← mapsKey? c with
  | none => emptyMap pin "Google Maps API key is missing, map will be empty." none
  | some key =>
    if pin.geotag.isNone then return ← emptyMap pin "Map without geotag, map will be empty." none
    match Geo.ofGeotag pin.geotag with
    | .ok none => emptyMap pin "Map geotag has no coordinates, map will be empty." none
    | .ok (some position) =>
      figure (← frame "map" none none (.address (mapAddress key position))) pin.caption
    | .error fault =>
      if Geo.isFormatFault fault then emptyMap pin s!"Invalid map geotag: {fault.message}" (some fault)
      else throw fault

end AmpArticle.Page
