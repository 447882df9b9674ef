import AmpArticle.Fault
import AmpArticle.Markup.Node

/-!
Slots: places for the elements that give a page its structure. A slot takes one element, of its own kind, and keeps it.
-/

namespace AmpArticle.Page

/-- a place for an element with a tag -/
structure Slot where
  tag : String
  held : Option Markup.Element
  deriving Inhabited

namespace Slot

/-- a slot that holds nothing -/
def empty (tag : String) : Slot := ⟨tag, none⟩

/-- whether a slot holds an element -/
def isFilled (s : Slot) : Bool := s.held.isSome

/-- the slot with an element in it; the tag is looked at first -/
def fill (s : Slot) (e : Markup.Element) : Except Fault Slot :=
  if e.tag ≠ s.tag then .error (.wrongTag s.tag e.tag)
  else
    match s.held with
    | some _ => .error (.slotFilled s.tag)
    | none => .ok { s with held := some e }

/-- the tags of the slots of a page by their names -/
def pageTags : List (String × String) :=
  [("html", "html"), ("head", "head"), ("body", "body"), ("header", "header"), ("header_bar", "div"),
    ("header_date", "h3"), ("article_body", "article"), ("footer", "footer"), ("custom_css", "style")]

/-- the slot of a name while nothing is in it; a name that is none of a page is the tag itself -/
def ofName (name : String) : Slot := empty ((lookup? name pageTags).getD name)

end Slot

end AmpArticle.Page
