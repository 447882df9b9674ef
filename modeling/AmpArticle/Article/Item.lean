import AmpArticle.Article.Caption

/-!
The items an article is made of: texts, lists, media, embedded content and what is only counted. An item tells its
kind by a tag.
-/

namespace AmpArticle

/-- a picture, still or moving, or a video: an address with a caption -/
structure Picture where
  url : String
  caption : Option Caption
  deriving DecidableEq, Inhabited

/-- pictures shown in turn -/
structure Slideshow where
  images : List Picture
  caption : Option Caption
  deriving DecidableEq, Inhabited

/-- embedded content: a source address, or markup -/
structure Embed where
  source : Option String
  html : Option String
  width : Option Int
  height : Option Int
  caption : Option Caption
  deriving DecidableEq, Inhabited

/-- a map with a geotag: a text or an object -/
structure MapPin where
  geotag : Option Json
  caption : Option Caption
  deriving Inhabited

/-- an advertisement: a source address, or markup -/
structure Advert where
  source : Option String
  html : Option String
  width : Option Int
  height : Option Int
  deriving DecidableEq, Inhabited

/-- an item of an article; texts are inline markup -/
inductive Item where
  | paragraph (text : String)
  | heading1 (text : String)
  | heading2 (text : String)
  | list (ordered : Bool) (items : List String)
  | blockquote (text : String)
  | pullquote (text : String) (attribution : Option String)
  | image (picture : Picture)
  | animatedImage (picture : Picture)
  | video (picture : Picture)
  | audio (url title : Option String)
  | slideshow (slides : Slideshow)
  | interactive (content : Embed)
  | socialEmbed (content : Embed)
  | map (pin : MapPin)
  | relatedArticles (title : Option String) (urls : List String)
  | analytics (source html : Option String)
  | ad (advert : Advert)
  | other (kind : String)
  deriving Inhabited

/-- a picture from the entries of a record of the given kind -/
def Picture.ofEntries (kind : String) (e : Entries) (o : Origin) : Checked Picture :=
  (fun _ url caption => Picture.mk url caption)
    <$> e.kind kind
    <*> e.required o "url" .text
    <*> e.optional o "caption" (.nullable Caption.decoder) none

/-- a slideshow from the entries of a record -/
def Slideshow.ofEntries (e : Entries) (o : Origin) : Checked Slideshow :=
  (fun _ images caption => Slideshow.mk images caption)
    <$> e.kind "slideshow"
    <*> e.optional o "images" (.list (.record (Picture.ofEntries "image"))) []
    <*> e.optional o "caption" (.nullable Caption.decoder) none

/-- embedded content from the entries of a record of the given kind -/
def Embed.ofEntries (kind : String) (e : Entries) (o : Origin) : Checked Embed :=
  (fun _ source html width height caption => Embed.mk source html width height caption)
    <$> e.kind kind
    <*> e.optional o "source" (.nullable .text) none
    <*> e.optional o "html" (.nullable .text) none
    <*> e.optional o "width" (.nullable .int) none
    <*> e.optional o "height" (.nullable .int) none
    <*> e.optional o "caption" (.nullable Caption.decoder) none

/-- a map from the entries of a record -/
def MapPin.ofEntries (e : Entries) (o : Origin) : Checked MapPin :=
  (fun _ geotag caption => MapPin.mk geotag caption)
    <$> e.kind "map"
    <*> e.optional o "geotag" (.nullable .textOrObject) none
    <*> e.optional o "caption" (.nullable Caption.decoder) none

/-- an advertisement from the entries of a record -/
def Advert.ofEntries (e : Entries) (o : Origin) : Checked Advert :=
  (fun _ source html width height => Advert.mk source html width height)
    <$> e.kind "ad"
    <*> e.optional o "source" (.nullable .text) none
    <*> e.optional o "html" (.nullable .text) none
    <*> e.optional o "width" (.nullable .int) none
    <*> e.optional o "height" (.nullable .int) none

namespace Item

/-- the text of a text item -/
def text? : Item → Option String
  | paragraph text | heading1 text | heading2 text | blockquote text | pullquote text _ => some text
  | _ => none

/-- whether an item is a text item that has nothing but blanks -/
def isBlank (item : Item) : Bool := item.text?.any Text.isBlankText

/-- the tag of an item's kind -/
def tag : Item → String
  | paragraph _ => "paragraph"
  | heading1 _ => "h1"
  | heading2 _ => "h2"
  | list .. => "list"
  | blockquote _ => "blockquote"
  | pullquote .. => "pullquote"
  | image _ => "image"
  | animatedImage _ => "animated_image"
  | video _ => "video"
  | audio .. => "audio"
  | slideshow _ => "slideshow"
  | interactive _ => "interactive"
  | socialEmbed _ => "social_embed"
  | map _ => "map"
  | relatedArticles .. => "related_articles"
  | analytics .. => "analytics"
  | ad _ => "ad"
  | other kind => kind

/-- the name of the divider class of an item's kind -/
def dividerKind : Item → String
  | paragraph _ => "p"
  | animatedImage _ => "gif"
  | socialEmbed _ => "social-embed"
  | relatedArticles .. => "related-articles"
  | item => item.tag

/-- the name of the record of an item's kind -/
def recordName : Item → String
  | paragraph _ => "Paragraph"
  | heading1 _ => "Heading1"
  | heading2 _ => "Heading2"
  | list .. => "ListElement"
  | blockquote _ => "Blockquote"
  | pullquote .. => "Pullquote"
  | image _ => "Image"
  | animatedImage _ => "AnimatedImage"
  | video _ => "Video"
  | audio .. => "Audio"
  | slideshow _ => "Slideshow"
  | interactive _ => "Interactive"
  | socialEmbed _ => "SocialEmbed"
  | map _ => "Map"
  | relatedArticles .. => "RelatedArticles"
  | analytics .. => "Analytics"
  | ad _ => "Ad"
  | other kind => kind

/-- a text item from the entries of a record of the given kind; the text comes before the kind -/
def textOfEntries (kind : String) (make : String → Item) (e : Entries) (o : Origin) : Checked Item :=
  (fun text _ => make text) <$> e.optional o "text" .text "" <*> e.kind kind

/-- a pullquote from the entries of a record -/
def pullquoteOfEntries (e : Entries) (o : Origin) : Checked Item :=
  (fun text _ attribution => pullquote text attribution)
    <$> e.optional o "text" .text ""
    <*> e.kind "pullquote"
    <*> e.optional o "attribution" (.nullable .text) none

/-- a list from the entries of a record -/
def listOfEntries (e : Entries) (o : Origin) : Checked Item :=
  (fun _ ordered items => list ordered items)
    <$> e.kind "list"
    <*> e.optional o "ordered" .switch false
    <*> e.optional o "items" (.list .text) []

/-- an audio item from the entries of a record -/
def audioOfEntries (e : Entries) (o : Origin) : Checked Item :=
  (fun _ url title => audio url title)
    <$> e.kind "audio"
    <*> e.optional o "url" (.nullable .text) none
    <*> e.optional o "title" (.nullable .text) none

/-- links to related articles from the entries of a record -/
def relatedOfEntries (e : Entries) (o : Origin) : Checked Item :=
  (fun _ title urls => relatedArticles title urls)
    <$> e.kind "related_articles"
    <*> e.optional o "title" (.nullable .text) none
    <*> e.optional o "urls" (.list .text) []

/-- tracking data from the entries of a record -/
def analyticsOfEntries (e : Entries) (o : Origin) : Checked Item :=
  (fun _ source html => analytics source html)
    <$> e.kind "analytics"
    <*> e.optional o "source" (.nullable .text) none
    <*> e.optional o "html" (.nullable .text) none

/-- how the entries of a record are read, by the tag of its kind -/
def ofTag? : String → Option (Entries → Origin → Checked Item)
  | "paragraph" => some (textOfEntries "paragraph" paragraph)
  | "h1" => some (textOfEntries "h1" heading1)
  | "h2" => some (textOfEntries "h2" heading2)
  | "list" => some listOfEntries
  | "blockquote" => some (textOfEntries "blockquote" blockquote)
  | "pullquote" => some pullquoteOfEntries
  | "image" => some fun e o => image <$> Picture.ofEntries "image" e o
  | "animated_image" => some fun e o => animatedImage <$> Picture.ofEntries "animated_image" e o
  | "video" => some fun e o => video <$> Picture.ofEntries "video" e o
  | "audio" => some audioOfEntries
  | "slideshow" => some fun e o => slideshow <$> Slideshow.ofEntries e o
  | "interactive" => some fun e o => interactive <$> Embed.ofEntries "interactive" e o
  | "social_embed" => some fun e o => socialEmbed <$> Embed.ofEntries "social_embed" e o
  | "map" => some fun e o => map <$> MapPin.ofEntries e o
  | "related_articles" => some relatedOfEntries
  | "analytics" => some analyticsOfEntries
  | "ad" => some fun e o => ad <$> Advert.ofEntries e o
  | _ => none

/-- reads an item of any kind -/
def decoder : Decoder Item := .tagged ofTag?

/-- the fields of embedded content in order, without its caption -/
def embedFields (source html : Option String) (width height : Option Int) : List (String × Datum) :=
  [("source", .optionalText source), ("html", .optionalText html), ("width", .optionalInt width),
    ("height", .optionalInt height)]

/-- the field of a caption -/
def captionField (caption : Option Caption) : String × Datum := ("caption", .optional Caption.toDatum caption)

/-- the fields of an item in order, its kind aside -/
def fields : Item → List (String × Datum)
  | paragraph text | heading1 text | heading2 text | blockquote text => [("text", .text text)]
  | pullquote text attribution => [("text", .text text), ("attribution", .optionalText attribution)]
  | list ordered items => [("ordered", .plain (.bool ordered)), ("items", .list (items.map .text))]
  | image p | animatedImage p | video p => [("url", .text p.url), captionField p.caption]
  | audio url title => [("url", .optionalText url), ("title", .optionalText title)]
  | slideshow s =>
    [("images", .list (s.images.map fun p =>
      .record "Image" [("type", .text "image"), ("url", .text p.url), captionField p.caption])),
      captionField s.caption]
  | interactive c | socialEmbed c => embedFields c.source c.html c.width c.height ++ [captionField c.caption]
  | map pin => [("geotag", .plain (pin.geotag.getD .null)), captionField pin.caption]
  | relatedArticles title urls => [("title", .optionalText title), ("urls", .list (urls.map .text))]
  | analytics source html => [("source", .optionalText source), ("html", .optionalText html)]
  | ad a => embedFields a.source a.html a.width a.height
  | other _ => []

/-- the item as a datum; the kind of a text item follows its text, that of others comes first -/
def toDatum (item : Item) : Datum :=
  let kind := ("type", Datum.text item.tag)
  .record item.recordName <|
    match item.text?, item.fields with
    | some _, text :: rest => text :: kind :: rest
    | _, fields => kind :: fields

end Item

end AmpArticle
