import AmpArticle.Fault

/-!
Custom elements that need a script of their own in the head of a page. Their scripts stand in the order of `all`.
-/

namespace AmpArticle.Page

/-- a custom element with a script -/
inductive Feature where
  | video
  | audio
  | carousel
  | iframe
  | anim
  | analytics
  deriving DecidableEq, Inhabited

namespace Feature

/-- all features in the order of their scripts -/
def all : List Feature := [video, audio, carousel, iframe, anim, analytics]

/-- the tag of a feature's element -/
def tag : Feature → String
  | video => "amp-video"
  | audio => "amp-audio"
  | carousel => "amp-carousel"
  | iframe => "amp-iframe"
  | anim => "amp-anim"
  | analytics => "amp-analytics"

/-- the address of a feature's script -/
def scriptAddress (f : Feature) : String := "https://cdn.ampproject.org/v0/" ++ f.tag ++ "-0.1.js"

/-- the feature with a tag -/
def ofJson (tag : Json) : Except Fault Feature :=
  match all.find? fun f => Json.text f.tag == tag with
  | some f => .ok f
  | none => .error (.value s!"{tag.literal} is not a valid Feature")

/-- of the used features those that there are, in the order of their scripts -/
def inOrder (used : List Feature) : List Feature := all.filter fun f => used.contains f

end Feature

end AmpArticle.Page
