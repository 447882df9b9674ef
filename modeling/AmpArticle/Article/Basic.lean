import AmpArticle.Article.Item

/-!
Articles: a header, a sequence of items and perhaps a footer.
-/

namespace AmpArticle

/-- someone who wrote an article -/
structure Author where
  name : String
  url : Option String
  description : Option String
  deriving DecidableEq, Inhabited

/-- what is shown above the title -/
inductive Cover where
  | image (picture : Picture)
  | video (picture : Picture)
  | slideshow (slides : Slideshow)
  deriving DecidableEq, Inhabited

/-- the header of an article; title, subtitle and kicker are inline markup -/
structure Header where
  title : Option String
  subtitle : Option String
  kicker : Option String
  authors : List Author
  published : Option Moment
  modified : Option Moment
  cover : Option Cover
  deriving DecidableEq, Inhabited

/-- the credits of a footer: paragraphs, or one piece of markup -/
inductive Credits where
  | paragraphs (texts : List String)
  | single (text : String)
  deriving DecidableEq, Inhabited

/-- the footer of an article -/
structure Footer where
  credits : Option Credits
  copyright : Option String
  deriving DecidableEq, Inhabited

/-- a whole article; `extras` are entries that have no meaning here -/
structure Article where
  canonicalUrl : String
  charset : String
  style : String
  rightToLeft : Bool
  header : Header
  items : List Item
  footer : Option Footer
  extras : List (String × Json)
  deriving Inhabited

namespace Author

/-- an author from the entries of a record -/
def ofEntries (e : Entries) (o : Origin) : Checked Author :=
  Author.mk
    <$> e.required o "name" .text
    <*> e.optional o "url" (.nullable .text) none
    <*> e.optional o "description" (.nullable .text) none

/-- reads an author -/
def decoder : Decoder Author := .record ofEntries

/-- the author as a datum -/
def toDatum (a : Author) : Datum :=
  .record "Author" [("name", .text a.name), ("url", .optionalText a.url),
    ("description", .optionalText a.description)]

end Author

namespace Cover

/-- how the entries of a record are read, by the tag of its kind -/
def ofTag? : String → Option (Entries → Origin → Checked Cover)
  | "image" => some fun e o => image <$> Picture.ofEntries "image" e o
  | "video" => some fun e o => video <$> Picture.ofEntries "video" e o
  | "slideshow" => some fun e o => slideshow <$> Slideshow.ofEntries e o
  | _ => none

/-- reads a cover -/
def decoder : Decoder Cover := .tagged ofTag?

/-- the cover as an item -/
def toItem : Cover → Item
  | image p => .image p
  | video p => .video p
  | slideshow s => .slideshow s

/-- the item as a cover, if it can be one -/
def ofItem? : Item → Option Cover
  | .image p => some (image p)
  | .video p => some (video p)
  | .slideshow s => some (slideshow s)
  | _ => none

end Cover

namespace Header

/-- a header that says nothing -/
def empty : Header := ⟨none, none, none, [], none, none, none⟩

/-- a header from the entries of a record -/
def ofEntries (e : Entries) (o : Origin) : Checked Header :=
  Header.mk
    <$> e.optional o "title" (.nullable .text) none
    <*> e.optional o "subtitle" (.nullable .text) none
    <*> e.optional o "kicker" (.nullable .text) none
    <*> e.optional o "authors" (.list Author.decoder) []
    <*> e.optional o "published" (.nullable .moment) none
    <*> e.optional o "modified" (.nullable .moment) none
    <*> e.optional o "cover" (.nullable Cover.decoder) none

/-- reads a header -/
def decoder : Decoder Header := .record ofEntries

/-- the header as a datum -/
def toDatum (h : Header) : Datum :=
  .record "Header" [("title", .optionalText h.title), ("subtitle", .optionalText h.subtitle),
    ("kicker", .optionalText h.kicker), ("authors", .list (h.authors.map Author.toDatum)),
    ("published", .optional .moment h.published), ("modified", .optional .moment h.modified),
    ("cover", .optional (fun c => c.toItem.toDatum) h.cover)]

end Header

namespace Credits

/-- credits from a list or a text -/
def ofSum : List String ⊕ String → Credits
  | .inl texts => paragraphs texts
  | .inr text => single text

/-- whether there are any -/
def isPresent : Credits → Bool
  | paragraphs texts => !texts.isEmpty
  | single text => !text.isEmpty

/-- the credits as a datum -/
def toDatum : Credits → Datum
  | paragraphs texts => .list (texts.map .text)
  | single text => .text text

end Credits

namespace Footer

/-- a footer from the entries of a record -/
def ofEntries (e : Entries) (o : Origin) : Checked Footer :=
  (fun credits copyright => Footer.mk (credits.map Credits.ofSum) copyright)
    <$> e.optional o "credits" (.nullable .textsOrText) none
    <*> e.optional o "copyright" (.nullable .text) none

/-- reads a footer -/
def decoder : Decoder Footer := .record ofEntries

/-- whether a footer has anything to show -/
def isPresent (f : Footer) : Bool := f.credits.any Credits.isPresent || f.copyright.any fun s => !s.isEmpty

/-- the footer as a datum -/
def toDatum (f : Footer) : Datum :=
  .record "Footer" [("credits", .optional Credits.toDatum f.credits), ("copyright", .optionalText f.copyright)]

end Footer

namespace Article

/-- the names of the entries that have a meaning -/
def fieldNames : List String := ["canonical_url", "charset", "style", "rtl", "header", "children", "footer"]

/-- an article without content -/
def empty : Article := ⟨"", "utf-8", "default", false, Header.empty, [], none, []⟩

/-- an article from the entries of a record -/
def ofEntries (e : Entries) (o : Origin) : Checked Article :=
  (fun url charset style rightToLeft header items footer =>
      Article.mk url charset style rightToLeft header items footer
        (e.filter fun entry => !fieldNames.contains entry.1))
    <$> e.optional o "canonical_url" .text ""
    <*> e.optional o "charset" .text "utf-8"
    <*> e.optional o "style" .text "default"
    <*> e.optional o "rtl" .switch false
    <*> e.optional o "header" Header.decoder Header.empty
    <*> e.optional o "children" (.list Item.decoder) []
    <*> e.optional o "footer" (.nullable Footer.decoder) none

/-- reads an article -/
def decoder : Decoder Article := .record ofEntries

/-- how deeply lists and objects may be nested in the text of a record -/
def maxDepth : Nat := 200

/-- what the text of a record may have: whole numbers with so many digits and signs, so many open lists and objects -/
def documentLimits : Json.Limits :=
  ⟨fun negative digits => digits + negative.toNat ≤ Json.maxIntDigits, fun levels => levels ≤ maxDepth⟩

/-- reads the text of a record, which may not escape half a surrogate pair -/
def ofDocument {α : Type} (decode : Decoder α) (text : String) : Checked α :=
  match Json.readWithin documentLimits text with
  | .error _ => .wrong .jsonInvalid
  | .ok v => if Json.surrogatesPaired text.toList then decode .document v else .wrong .jsonInvalid

/-- an article from a decoded value or from its text -/
def ofJson (given : Json) : Except Fault Article :=
  match given with
  | .object _ => (decoder .value given).toExcept "Article"
  | .text s => (ofDocument decoder s).toExcept "Article"
  | v => .error (.notArticle v.kindName)

/-- the article as a datum -/
def toDatum (a : Article) : Datum :=
  .record "Article" <|
    [("canonical_url", .text a.canonicalUrl), ("charset", .text a.charset), ("style", .text a.style),
      ("rtl", .plain (.bool a.rightToLeft)), ("header", a.header.toDatum),
      ("children", .list (a.items.map Item.toDatum)), ("footer", .optional Footer.toDatum a.footer)]
      ++ a.extras.map fun e => (e.1, .plain e.2)

end Article

end AmpArticle
