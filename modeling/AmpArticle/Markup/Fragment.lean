import AmpArticle.Fault
import AmpArticle.Markup.Tree

/-!
Pieces of markup, as authors write them inside an article. A piece is wrapped into a document unless it is one already;
what matters is the content of the document's body. Blank text at the front of the body is dropped.
-/

namespace AmpArticle.Markup

/-- whether a text may stand in a document: no control character but tab and line ends, no surrogate, no
non-character -/
def isAllowedChar (c : Char) : Bool :=
  let n := c.toNat
  n == 0x09 || n == 0x0a || n == 0x0d || (0x20 ≤ n && n != 0xfffe && n != 0xffff)

/-- whether all characters of a text may stand in a document -/
def isAllowedText (s : String) : Bool := s.toList.all isAllowedChar

/-- whether markup is a whole document: it begins with its root element or with a document type -/
def isWholeDocument (cs : List Char) : Bool :=
  let cs := cs.dropWhile Text.isBlank
  String.ofList ((cs.take 5).map Char.toLower) == "<html" ||
    String.ofList ((cs.take 9).map Char.toLower) == "<!doctype"

/-- markup as a document -/
def wrapped (markup : String) : String :=
  if isWholeDocument markup.toList then markup else "<html><body>" ++ markup ++ "</body></html>"

/-- the elements of a document that are bodies -/
def bodies (root : Element) : List Element :=
  root.children.filterMap fun n => n.element?.bind fun e => if e.tag = "body" then some e else none

/-- the content of the body that markup denotes, without blank text at its front -/
def fragments (markup : String) : Except Fault (List Node) :=
  match document? (wrapped markup).toList with
  | none => .error .emptyDocument
  | some root =>
    match bodies root with
    | [body] =>
      .ok (if Text.isBlankText body.leadingText then Node.dropText body.children else body.children)
    | _ => .error (.bodyCount (wrapped markup))

/-- the number of pieces that nodes make: text at the front is one, and every other node with the text after it -/
def pieceCount (nodes : List Node) : Nat :=
  (nodes.filter fun n => !n.isText).length + (if nodes.head?.any Node.isText then 1 else 0)

/-- the text nodes at the front of nodes -/
def frontText (nodes : List Node) : List Node := nodes.takeWhile Node.isText

/-- the text nodes at the end of nodes -/
def endText (nodes : List Node) : List Node := (nodes.reverse.takeWhile Node.isText).reverse

/-- nodes added behind others. Text at their front is joined to the text in front of it, and the joined text must be
allowed; all other text is taken over as it was read -/
def joinNodes (before nodes : List Node) : Except Fault (List Node) :=
  if (frontText nodes).isEmpty || isAllowedText (Node.textContents (endText before ++ frontText nodes)) then
    .ok (before ++ nodes)
  else .error .forbiddenCharacter

/-- markup added at the end of an element; empty markup adds nothing -/
def Element.appendMarkup (e : Element) (markup : String) : Except Fault Element :=
  if markup.isEmpty then pure e
  else do
    let nodes ← fragments markup
    return { e with children := ← joinNodes e.children nodes }

/-- the text of markup without its tags -/
def plainText (markup : String) : Except Fault String :=
  if markup.isEmpty then pure "" else do return Node.textContents (← joinNodes [] (← fragments markup))

end AmpArticle.Markup
