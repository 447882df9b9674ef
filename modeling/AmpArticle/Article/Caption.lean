import AmpArticle.Record.Datum
import AmpArticle.Record.Field

/-!
Captions of media: inline markup in up to four parts, with choices of size, place and alignment.
-/

namespace AmpArticle

/-- the size of a caption's text -/
inductive FontSize where
  | small
  | medium
  | large
  | extraLarge
  deriving DecidableEq, Inhabited

namespace FontSize

/-- all sizes in order -/
def all : List FontSize := [small, medium, large, extraLarge]

/-- the class name of a size -/
def className : FontSize → String
  | small => "op-small"
  | medium => "op-medium"
  | large => "op-large"
  | extraLarge => "op-extra-large"

/-- the name of a size as keys of styles end with it -/
def styleSuffix : FontSize → String
  | small => "small"
  | medium => "medium"
  | large => "large"
  | extraLarge => "extra_large"

/-- the size with a class name -/
def ofClassName? (s : String) : Option FontSize := all.find? fun x => x.className == s

/-- the size as a datum -/
def toDatum (x : FontSize) : Datum :=
  .choice "CaptionFontSize" (x.styleSuffix.map Char.toUpper) x.className

end FontSize

/-- where a caption stands -/
inductive CaptionPlace where
  | above
  | below
  deriving DecidableEq, Inhabited

namespace CaptionPlace

/-- the class name of a place -/
def className : CaptionPlace → String
  | above => "op-vertical-above"
  | below => "op-vertical-below"

/-- the place with a class name -/
def ofClassName? (s : String) : Option CaptionPlace := [above, below].find? fun x => x.className == s

/-- the place as a datum -/
def toDatum (x : CaptionPlace) : Datum :=
  .choice "CaptionPosition" (match x with
    | above => "ABOVE"
    | below => "BELOW") x.className

end CaptionPlace

/-- how lines are aligned -/
inductive LineAlignment where
  | left
  | center
  | right
  deriving DecidableEq, Inhabited

namespace LineAlignment

/-- the class name of an alignment -/
def className : LineAlignment → String
  | left => "op-left"
  | center => "op-center"
  | right => "op-right"

/-- the alignment with a class name -/
def ofClassName? (s : String) : Option LineAlignment := [left, center, right].find? fun x => x.className == s

/-- the alignment as a datum -/
def toDatum (x : LineAlignment) : Datum :=
  .choice "TextAlignment" (match x with
    | left => "LEFT"
    | center => "CENTER"
    | right => "RIGHT") x.className

end LineAlignment

/-- how a block is aligned from top to bottom -/
inductive BlockAlignment where
  | top
  | center
  | bottom
  deriving DecidableEq, Inhabited

namespace BlockAlignment

/-- the class name of an alignment -/
def className : BlockAlignment → String
  | top => "op-vertical-top"
  | center => "op-vertical-center"
  | bottom => "op-vertical-bottom"

/-- the alignment with a class name -/
def ofClassName? (s : String) : Option BlockAlignment := [top, center, bottom].find? fun x => x.className == s

/-- the alignment as a datum -/
def toDatum (x : BlockAlignment) : Datum :=
  .choice "VerticalAlignment" (match x with
    | top => "TOP"
    | center => "CENTER"
    | bottom => "BOTTOM") x.className

end BlockAlignment

/-- a caption; every part is inline markup -/
structure Caption where
  text : String
  title : Option String
  subtitle : Option String
  credit : Option String
  fontSize : Option FontSize
  place : Option CaptionPlace
  lines : Option LineAlignment
  block : Option BlockAlignment
  deriving DecidableEq, Inhabited

namespace Caption

/-- a caption from the entries of a record -/
def ofEntries (e : Entries) (o : Origin) : Checked Caption :=
  Caption.mk
    <$> e.required o "text" .text
    <*> e.optional o "title" (.nullable .text) none
    <*> e.optional o "subtitle" (.nullable .text) none
    <*> e.optional o "credit" (.nullable .text) none
    <*> e.optional o "font_size" (.nullable (.choice FontSize.ofClassName?)) none
    <*> e.optional o "position" (.nullable (.choice CaptionPlace.ofClassName?)) none
    <*> e.optional o "text_alignment" (.nullable (.choice LineAlignment.ofClassName?)) none
    <*> e.optional o "vertical_alignment" (.nullable (.choice BlockAlignment.ofClassName?)) none

/-- reads a caption -/
def decoder : Decoder Caption := .record ofEntries

/-- the caption as a datum -/
def toDatum (c : Caption) : Datum :=
  .record "Caption" [("text", .text c.text), ("title", .optionalText c.title), ("subtitle", .optionalText c.subtitle),
    ("credit", .optionalText c.credit), ("font_size", .optional FontSize.toDatum c.fontSize),
    ("position", .optional CaptionPlace.toDatum c.place),
    ("text_alignment", .optional LineAlignment.toDatum c.lines),
    ("vertical_alignment", .optional BlockAlignment.toDatum c.block)]

end Caption

end AmpArticle
