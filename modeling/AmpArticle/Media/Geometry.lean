import AmpArticle.Media.Sizes
import AmpArticle.Number.Quantity

/-!
Fitting pictures into boxes: covering a box, cropped and centred, or taking its width with the height in proportion.
-/

namespace AmpArticle.Media

/-- a picture over a box: its scaled size and how far it is moved -/
structure Viewport where
  width : Int
  height : Int
  x : Int
  y : Int
  deriving DecidableEq, Inhabited

/-- half of what a scaled length has beyond the box, to the other side and without its fractional part -/
def centring (scaled : Double) (target : Quantity) : Except Fault Int := do
  (((scaled.sub (← target.toDouble)).neg).div Double.two).toTruncatedInt

/-- the smallest scaled picture that covers a box, centred over it -/
def cover (width height targetWidth targetHeight : Quantity) : Except Fault Viewport := do
  let scale := Double.larger (← targetWidth.div width) (← targetHeight.div height)
  let scaledWidth ← width.scale scale
  let scaledHeight ← height.scale scale
  return ⟨← scaledWidth.toNearestInt, ← scaledHeight.toNearestInt,
    ← centring scaledWidth targetWidth, ← centring scaledHeight targetHeight⟩

/-- the height in proportion to a new width -/
def scaledHeight (width height targetWidth : Quantity) : Except Fault Int := do
  (← (← height.mul targetWidth).div width).toNearestInt

end AmpArticle.Media
