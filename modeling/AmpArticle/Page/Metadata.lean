import AmpArticle.Json.Writer
import AmpArticle.Page.Rendering

/-!
What a page says about its article to machines: a description of a news article. An entry is there only when the
article has something for it.
-/

namespace AmpArticle.Page

/-- an entry, if there is a value -/
def entry (key : String) (value : Option Json) : List (String × Json) := (value.map fun v => (key, v)).toList

/-- the text of markup that is not empty -/
def textOfMarkup (markup : Option String) : Except Fault (Option Json) :=
  match markup.filter fun s => !s.isEmpty with
  | none => .ok none
  | some markup => (Markup.plainText markup).map fun s => some (.text s)

/-- the text of the first paragraph that is not blank -/
def firstParagraph? (items : List Item) : Option String :=
  items.findSome? fun i =>
    match i with
    | .paragraph text => if i.isBlank then none else some text
    | _ => none

/-- the picture that stands for an article: the cover, else the first one in the content -/
def leadPicture? (a : Article) : Option Picture :=
  match a.header.cover with
  | some (.image p) => some p
  | _ => a.items.findSome? fun i =>
    match i with
    | .image p => some p
    | _ => none

/-- a picture with its size -/
def pictureObject (p : Picture) (size : Media.Size) : Json :=
  .object [("@type", .text "ImageObject"), ("url", .text p.url), ("width", .int size.width),
    ("height", .int size.height)]

/-- a publisher: a name stands for an organisation, anything else for itself -/
def publisherObject? (publisher : Option Json) : Option Json :=
  match publisher with
  | some (.text name) =>
    if name.isEmpty then none else some (.object [("@type", .text "Organization"), ("name", .text name)])
  | some v => if v.isTruthy then some v else none
  | none => none

/-- a moment in its standard form -/
def momentEntry (key : String) (moment : Option Moment) : List (String × Json) :=
  entry key (moment.map fun m => .text m.isoText)

/-- the description of an article before any filter -/
def description (c : Setting) : Rendering Json := do
  let a := c.article
  let headline ← liftM (textOfMarkup a.header.title)
  let summary ← liftM (textOfMarkup (firstParagraph? a.items))
  let author := a.header.authors.head?.map fun author =>
    Json.object [("@type", .text "Person"), ("name", .text author.name)]
  let picture ← match leadPicture? a with
    | none => pure none
    | some p => do
      let size ← Rendering.resolve c p.url .image
      pure (some (pictureObject p size))
  return .object <|
    [("@context", .text "http://schema.org"), ("@type", .text "NewsArticle"),
      ("mainEntityOfPage", .text a.canonicalUrl)]
      ++ entry "headline" headline
      ++ momentEntry "datePublished" a.header.published
      ++ entry "description" summary
      ++ momentEntry "dateModified" a.header.modified
      ++ entry "author" author
      ++ entry "image" picture
      ++ entry "publisher" (publisherObject? c.properties.publisher)

/-- the description of an article as the filters leave it, written out -/
def metadata (c : Setting) : Rendering String := do
  match ← Rendering.filter .schemaOrg (.plain (← description c)) [] with
  | .plain v => return v.write
  | v => throw (.type s!"Object of type {v.kindName} is not JSON serializable")

end AmpArticle.Page
