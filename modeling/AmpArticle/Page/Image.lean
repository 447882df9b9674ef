import AmpArticle.Media.Geometry
import AmpArticle.Page.Figure
import AmpArticle.Url.Secure

/-!
Images: at their natural size, covering a box that clips them, or as wide as a box.
-/

namespace AmpArticle.Page

open Markup (Element Node)

/-- how an image is fitted -/
inductive Sizing where
  | responsive
  | viewport
  | scaled
  deriving DecidableEq, Inhabited

/-- the way of fitting with a name -/
def Sizing.ofJson (name : Json) : Except Fault Sizing :=
  match name with
  | .text "responsive" => .ok responsive
  | .text "viewport" => .ok viewport
  | .text "scaled" => .ok scaled
  | _ => .error (.value s!"{name.literal} is not a valid ImageSizing")

/-- a box to fit an image into -/
structure Box where
  width : Quantity
  height : Quantity
  deriving DecidableEq, Inhabited

/-- the usual box -/
def Box.usual : Box := ⟨.int Media.defaultWidth, .int Media.defaultHeight⟩

/-- how an image is built: its fitting, its class, the box and the class of the clipping element -/
structure ImageStyle where
  sizing : Sizing
  names : Css.ClassNames
  box : Box
  boxNames : Css.ClassNames
  deriving Inhabited

/-- an image in the text of an article -/
def ImageStyle.inText : ImageStyle := ⟨.responsive, .name "image", Box.usual, .name "viewport-box"⟩

/-- the image of a header -/
def ImageStyle.cover : ImageStyle := ⟨.viewport, .name "header-cover-img", Box.usual, .name "cover-image"⟩

/-- a whole number as an attribute -/
def intText (n : Int) : String := toString n

/-- address, size and layout of media as attributes -/
def mediaAttributes (url : String) (size : Media.Size) (layout : String) : List (String × String) :=
  [("src", url), ("width", intText size.width), ("height", intText size.height), ("layout", layout)]

/-- an image that covers a box and is moved to its middle; a class of their own connects both with their rules -/
def clippedImage (url : String) (size : Media.Size) (style : ImageStyle) : Rendering Element := do
  let own ← Rendering.uniqueClass "viewport"
  let holder ← Rendering.create "div" (some (.many [style.boxNames, .name own])) []
  let ownClass ← Rendering.classAttribute (.name own)
  Rendering.declare ("div." ++ ownClass) "width" (style.box.width.text ++ "px")
  Rendering.declare ("div." ++ ownClass) "height" (style.box.height.text ++ "px")
  Rendering.declare ("div." ++ ownClass) "overflow" "hidden"
  let view ← liftM (Media.cover (.int size.width) (.int size.height) style.box.width style.box.height)
  Rendering.declare ("amp-img." ++ ownClass) "transform" s!"translate({view.x}px, {view.y}px)"
  let image ← Rendering.create "amp-img" (some (.many [style.names, .name own]))
    (mediaAttributes url ⟨view.width, view.height⟩ "fixed")
  return holder.append [image.toNode]

/-- an image with its own size or as wide as the box -/
def plainImage (url : String) (size : Media.Size) (style : ImageStyle) : Rendering Element := do
  let (width, height) ← match style.sizing with
    | .scaled => do
      let height ← liftM (Media.scaledHeight (.int size.width) (.int size.height) style.box.width)
      pure (style.box.width.text, intText height)
    | _ => pure (intText size.width, intText size.height)
  Rendering.create "amp-img" (some style.names)
    [("src", url), ("width", width), ("height", height), ("layout", "responsive")]

/-- an image with its caption -/
def image (c : Setting) (p : Picture) (style : ImageStyle) : Rendering Built := do
  let size ← Rendering.dimensions c p.url .image
  let e ← match style.sizing with
    | .viewport => clippedImage p.url size style
    | _ => plainImage p.url size style
  figure e p.caption

/-- a moving image with its caption -/
def animatedImage (c : Setting) (p : Picture) : Rendering Built := do
  let size ← Rendering.dimensions c p.url .image
  let e ← Rendering.create "amp-anim" (some (.name "gif")) (mediaAttributes p.url size "responsive")
  Rendering.useFeature .anim
  figure e p.caption

/-- an address over a secure connection, with a warning when it has to be changed -/
def securedAddress (url kind : String) : Rendering String := do
  let secured := Url.secure url
  if secured ≠ url then
    Rendering.warnText s!"{kind} URL {url} is not HTTPS, rewritten to {secured}." url none
  return secured

/-- a video with its caption -/
def video (c : Setting) (p : Picture) (name : String) : Rendering Built := do
  let size ← Rendering.dimensions c p.url .video
  let url ← securedAddress p.url "Video"
  let e ← Rendering.create "amp-video" (some (.name name))
    (mediaAttributes url size "responsive" ++ [("controls", "")])
  Rendering.useFeature .video
  figure e p.caption

/-- a picture of a slideshow, as wide as the usual box -/
def slide (c : Setting) (p : Picture) : Rendering (Element × Media.Size) := do
  let size ← Rendering.dimensions c p.url .image
  let height ← liftM (Media.scaledHeight (.int size.width) (.int size.height) Box.usual.width)
  let scaled : Media.Size := ⟨Media.defaultWidth, height⟩
  let e ← Rendering.create "amp-img" none (mediaAttributes p.url scaled "responsive")
  return (e, scaled)

/-- a slideshow with its caption; it has the size of its first picture, and without pictures it is an empty box -/
def slideshow (c : Setting) (s : Slideshow) (name : String) : Rendering Built := do
  match s.images with
  | [] =>
    Rendering.warnItem "Slideshow without images, rendering an empty placeholder." (.slideshow s) none
    return .ofElement (← Rendering.createNamed "div" name)
  | first :: rest =>
    let carousel ← Rendering.create "amp-carousel" (some (.name name)) [("type", "slides")]
    let (firstSlide, size) ← slide c first
    let slides ← rest.mapM (slide c)
    let carousel := (((carousel.put "width" (intText size.width)).put "height" (intText size.height)).put
      "layout" "responsive").append ((firstSlide :: slides.map Prod.fst).map Element.toNode)
    Rendering.useFeature .carousel
    figure carousel s.caption

end AmpArticle.Page
