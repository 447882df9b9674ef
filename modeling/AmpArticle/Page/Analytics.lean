import AmpArticle.Page.Rendering

/-!
Tracking elements that the options bring along as markup. Each piece must be a single element of one of two kinds;
either all pieces are and all are taken over, or none is.
-/

namespace AmpArticle.Page

open Markup (Element Node)

/-- the elements that may track -/
def trackingTags : List String := ["amp-analytics", "amp-pixel"]

/-- a failure to read markup, as far as it is blamed on the markup -/
def asUnreadable (markup : String) : Fault → Fault
  | .emptyDocument => .analyticsUnreadable markup Fault.emptyDocument.message
  | fault => fault

/-- the tag of a node, as a message shows it -/
def shownTag (n : Node) : String := n.tag?.getD "comment"

/-- the one tracking element that markup consists of -/
def trackingElement (markup : String) : Except Fault Node := do
  let nodes ← (Markup.fragments markup).mapError (asUnreadable markup)
  match nodes with
  | first :: rest =>
    if Markup.pieceCount nodes ≠ 1 || first.isText then
      throw (.analyticsCount markup (Markup.pieceCount nodes))
    if !trackingTags.contains (shownTag first) then throw (.analyticsTag markup (shownTag first))
    if !Text.isBlankText (Node.textContents rest) then throw (.analyticsTail markup)
    return first
  | [] => throw (.analyticsCount markup 0)

/-- the tracking elements of all pieces in order -/
def trackingElements (markups : List String) : Except Fault (List Node) := markups.mapM trackingElement

/-- whether a fault says that a piece of markup does not have its format -/
def isTrackingFault : Fault → Bool
  | .analyticsUnreadable .. | .analyticsCount .. | .analyticsTag .. | .analyticsTail _ => true
  | _ => false

/-- the tracking elements of the options; when any piece is wrong there is a warning about it, and no element -/
def analytics (markups : List String) : Rendering (List Node) := do
  if markups.isEmpty then return []
  match trackingElements markups with
  | .ok nodes =>
    Rendering.note [⟨.debug, s!"Validated {nodes.length} analytics element(s)"⟩]
    Rendering.useFeature .analytics
    return nodes
  | .error fault =>
    if isTrackingFault fault then
      Rendering.warn (.about
        s!"Invalid analytics markup, discarding all analytics: {fault.message}"
        (match fault.subject? with
          | some markup => .text markup
          | none => .null) (some fault))
      return []
    else throw fault

/-- a body with the tracking elements in front of what it has -/
def addAnalytics (markups : List String) (body : Element) : Rendering Element := do
  return { body with children := (← analytics markups) ++ body.children }

end AmpArticle.Page
