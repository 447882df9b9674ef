import AmpArticle.Markup.Token

/-!
From tokens to a document tree. A start tag first closes the innermost open elements that it cannot stand in, by the
table `closedBy`, and opens the document elements it implies. An end tag closes up to the innermost open element of
its name, unless an element of higher rank lies between; otherwise it is dropped. Elements without content are closed
at once.
-/

namespace AmpArticle.Markup

/-- elements that never have content -/
def voidTags : List String :=
  ["area", "base", "basefont", "bgsound", "br", "col", "embed", "frame", "hr", "img", "input", "isindex", "keygen",
    "link", "meta", "param", "source", "track", "wbr"]

/-- whether an element has no content and no end tag -/
def isVoid (tag : String) : Bool := voidTags.contains tag

/-- elements that may follow the document head but never stand in it -/
def bodyTags : List String :=
  ["a", "abbr", "acronym", "address", "b", "bdo", "big", "blockquote", "body", "br", "center", "cite", "code", "dd",
    "dfn", "dir", "div", "dl", "dt", "em", "fieldset", "font", "form", "frameset", "h1", "h2", "h3", "h4", "h5", "h6",
    "hr", "i", "iframe", "img", "kbd", "li", "listing", "map", "menu", "ol", "p", "pre", "q", "s", "samp", "small",
    "span", "strike", "strong", "sub", "sup", "table", "tt", "u", "ul", "var", "xmp"]

/-- the start tags that close an open element of the given tag -/
def closedBy (tag : String) : List String :=
  match tag with
  | "a" => ["a", "fieldset", "table", "td", "th"]
  | "address" => ["dd", "dl", "dt", "form", "li", "ul"]
  | "b" => ["center", "p", "td", "th"]
  | "big" | "s" | "small" | "strike" | "tt" => ["p"]
  | "caption" | "col" => ["col", "colgroup", "tbody", "tfoot", "thead", "tr"]
  | "colgroup" => ["colgroup", "tbody", "tfoot", "thead", "tr"]
  | "dd" => ["dt"]
  | "dir" => ["dd", "dl", "dt", "form", "ul"]
  | "dl" => ["form", "li"]
  | "dt" => ["dd", "dl"]
  | "font" => ["center", "td", "th"]
  | "form" => ["form"]
  | "h1" | "h2" | "h3" | "h4" | "h5" | "h6" => ["fieldset", "form", "li", "p", "table"]
  | "head" => bodyTags
  | "hr" => ["form"]
  | "i" => ["center", "p"]
  | "legend" => ["fieldset"]
  | "li" => ["li"]
  | "link" => ["body", "frameset"]
  | "listing" | "pre" | "xmp" => ["dd", "dl", "dt", "fieldset", "form", "li", "table", "ul"]
  | "menu" => ["dd", "dl", "dt", "form", "ul"]
  | "ol" => ["form"]
  | "option" => ["optgroup", "option"]
  | "p" =>
    ["address", "blockquote", "body", "caption", "center", "col", "colgroup", "dd", "dir", "div", "dl", "dt",
      "fieldset", "form", "frameset", "h1", "h2", "h3", "h4", "h5", "h6", "head", "hr", "li", "listing", "menu",
      "multicol", "ol", "p", "pre", "table", "tbody", "td", "tfoot", "th", "title", "tr", "ul", "xmp"]
  | "script" => ["noscript"]
  | "span" => ["td", "th"]
  | "style" | "title" => ["body", "frameset"]
  | "tbody" => ["tbody", "tfoot"]
  | "td" | "th" => ["tbody", "td", "tfoot", "th", "tr"]
  | "tfoot" => ["tbody"]
  | "thead" => ["tbody", "tfoot"]
  | "tr" => ["tbody", "tfoot", "tr"]
  | "u" => ["p", "td", "th"]
  | "ul" => ["address", "form", "menu", "ol", "pre"]
  | _ => []

/-- how strongly an open element resists the end tag of an element around it -/
def endRank (tag : String) : Nat :=
  match tag with
  | "div" => 150
  | "td" | "th" => 160
  | "tr" => 170
  | "thead" | "tbody" | "tfoot" => 180
  | "table" => 190
  | "head" | "body" => 200
  | "html" => 220
  | _ => 100

/-- an open element with the nodes it has so far, last one first -/
structure Frame where
  tag : String
  attributes : List Attribute
  below : List Node
  deriving Inhabited

/-- a document under construction. The root stays open for what comes after its end tag; `inside` are the open
elements below it, innermost first -/
structure Builder where
  root : Option Frame
  rootOpen : Bool
  inside : List Frame
  headSeen : Bool
  bodySeen : Bool
  ignored : Nat

namespace Builder

/-- no document yet -/
def empty : Builder := ⟨none, false, [], false, false, 0⟩

/-- the tags of the open elements, innermost first -/
def openTags (b : Builder) : List String :=
  b.inside.map (·.tag) ++ (if b.rootOpen then (b.root.map (·.tag)).toList else [])

/-- a node added to the innermost open element, or to the root when it is closed; lost before there is one -/
def add (b : Builder) (node : Node) : Builder :=
  match b.inside with
  | f :: rest => { b with inside := { f with below := node :: f.below } :: rest }
  | [] => { b with root := b.root.map fun f => { f with below := node :: f.below } }

/-- a new open element -/
def push (b : Builder) (tag : String) (attributes : List Attribute) : Builder :=
  let b := { b with headSeen := b.headSeen || tag == "head" || tag == "body", bodySeen := b.bodySeen || tag == "body" }
  match b.root with
  | none => { b with root := some ⟨tag, attributes, []⟩, rootOpen := true }
  | some _ => { b with inside := ⟨tag, attributes, []⟩ :: b.inside }

/-- the innermost open element closed -/
def pop (b : Builder) : Builder :=
  match b.inside with
  | f :: rest => { b with inside := rest }.add (.element f.tag none f.attributes f.below.reverse)
  | [] => { b with rootOpen := false }

/-- open elements closed as long as the new tag cannot stand in them; `fuel` bounds their number -/
def closeFor (tag : String) : Nat → Builder → Builder
  | 0, b => b
  | fuel + 1, b =>
    match b.openTags with
    | top :: _ => if (closedBy top).contains tag then closeFor tag fuel b.pop else b
    | [] => b

/-- open elements closed for a new tag -/
def autoClose (b : Builder) (tag : String) : Builder := closeFor tag (b.inside.length + 1) b

/-- the document elements that a tag implies -/
def imply (b : Builder) (tag : String) : Builder :=
  if tag = "html" then b
  else
    let b := if b.openTags.isEmpty then b.push "html" [] else b
    if tag = "body" ∨ tag = "head" then b
    else if b.openTags.length ≤ 1 ∧ ["script", "style", "meta", "link", "title", "base"].contains tag = true then
      if b.headSeen then b else b.push "head" []
    else if ["noframes", "frame", "frameset"].contains tag then b
    else if b.bodySeen ∨ b.openTags.contains "body" = true ∨ b.openTags.contains "head" = true then b
    else b.push "body" []

/-- a start tag; a second document element is dropped, and one end tag of its kind with it -/
def startTag (b : Builder) (tag : String) (attributes : List Attribute) : Builder :=
  let b := (b.autoClose tag).imply tag
  let dropped :=
    if tag = "html" then (if b.openTags.isEmpty then 0 else 1)
    else if tag = "head" then (if b.openTags.length = 1 then 0 else 1)
    else if tag = "body" then b.openTags.count "body"
    else 0
  if 0 < dropped then { b with ignored := b.ignored + dropped }
  else
    let b := b.push tag attributes
    if isVoid tag then b.pop else b

/-- whether an end tag may close the elements inside the one it names -/
def mayClose (tag : String) : List String → Bool
  | [] => false
  | top :: rest => top == tag || (endRank top ≤ endRank tag && mayClose tag rest)

/-- open elements closed up to and including the innermost of this tag -/
def closeThrough (tag : String) : Nat → Builder → Builder
  | 0, b => b
  | fuel + 1, b =>
    match b.openTags with
    | top :: _ => if top = tag then b.pop else closeThrough tag fuel b.pop
    | [] => b

/-- an end tag -/
def endTag (b : Builder) (tag : String) : Builder :=
  if 0 < b.ignored ∧ (tag = "html" ∨ tag = "body" ∨ tag = "head") then { b with ignored := b.ignored - 1 }
  else if mayClose tag b.openTags then closeThrough tag (b.inside.length + 1) b
  else b

/-- text. Outside the elements of the body the white space in front stays where it is, and any other text closes the
head and opens the body as a paragraph would -/
def addText (b : Builder) (content : String) : Builder :=
  let outside := match b.openTags with
    | [] => true
    | top :: _ => top == "html" || top == "head"
  if outside then
    let front := content.toList.takeWhile isTagSpace
    let text := content.toList.dropWhile isTagSpace
    let b := if front.isEmpty || b.openTags.isEmpty then b else b.add (.text (String.ofList front))
    if text.isEmpty then b else ((b.autoClose "p").imply "p").add (.text (String.ofList text))
  else b.add (.text content)

/-- one token -/
def step (b : Builder) : Token → Builder
  | .start tag attributes => b.startTag tag attributes
  | .stop tag => b.endTag tag
  | .text content => b.addText content
  | .comment content => if b.openTags.isEmpty then b else b.add (.comment content)

/-- all open elements closed -/
def close : Nat → Builder → Builder
  | 0, b => b
  | fuel + 1, b => if b.inside.isEmpty then b else close fuel b.pop

/-- the root element, once all is read -/
def finish (b : Builder) : Option Element :=
  let b := b.close (b.inside.length + 1)
  b.root.map fun f => ⟨f.tag, none, f.attributes, f.below.reverse⟩

end Builder

/-- the document that markup denotes, if it has any content; white space in front of it is skipped -/
def document? (cs : List Char) : Option Element :=
  ((tokens (cs.dropWhile isTagSpace)).foldl Builder.step Builder.empty).finish

end AmpArticle.Markup
