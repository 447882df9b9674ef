import AmpArticle.Json.Writer
import AmpArticle.Page.Document

/-!
What comes with the program: the usual style and the general style sheet, as files in two folders.
-/

namespace AmpArticle.Page.Resources

/-! ## The usual style -/

/-- a number of tenths -/
def tenths (n : Nat) : Json := .real (Double.nearest (n / 10) false)

/-- a length named by its size -/
def spacing (size : String) : Json := .object [("size", .text size), ("scaling_factor", tenths 10)]

/-- the margins at both sides of a text -/
def sideMargins : String × Json :=
  ("margin", .object [("left", spacing "DOCUMENT_MARGIN"), ("right", spacing "DOCUMENT_MARGIN")])

/-- a text without serifs -/
def sansSerif : String × Json := ("font", .text "Helvetica Neue, Helvetica, Arial, sans-serif")

/-- a text with serifs -/
def serif : String × Json := ("font", .text "Georgia, serif")

/-- the colour of a text -/
def colored (digits : String) : String × Json := ("color", .text ("#" ++ digits))

/-- the size of a text -/
def sized (n : Nat) : String × Json := ("text_size_scale", tenths n)

/-- the style of the parts of a header -/
def headerStyle : List (String × Json) :=
  [("kicker", .object [sansSerif, colored "90949C", ("capitalization", .text "ALL_CAPS"), sized 8]),
    ("title", .object [serif, colored "1D2129", sized 16, ("line_height_scale", tenths 12), sideMargins]),
    ("subtitle", .object [serif, colored "4B4F56", sized 11]),
    ("byline", .object [sansSerif, colored "90949C", sized 8])]

/-- the style of headings, texts and links -/
def textStyle : List (String × Json) :=
  [("primary_heading", .object [serif, colored "1D2129", sized 14]),
    ("secondary_heading", .object [serif, colored "1D2129", sized 12]),
    ("body_text", .object [serif, colored "1D2129", ("line_height_scale", tenths 15), sideMargins]),
    ("inline_link", .object [colored "365899", ("underline", .text "NONE")])]

/-- the style of quotes -/
def quoteStyle : List (String × Json) :=
  [("block_quote", .object [serif, colored "4B4F56",
      ("border", .object [("left", .object [("width", .int 4), colored "DADDE1"])]),
      ("padding", .object [("left", spacing "EXTRA_SMALL")])]),
    ("pull_quote", .object [serif, colored "1D2129", ("text_alignment", .text "CENTER"), sized 13]),
    ("pull_quote_attribution", .object [sansSerif, colored "90949C", ("display", .text "BLOCK"), sized 7])]

/-- the style of captions and the footer -/
def endStyle : List (String × Json) :=
  [("caption_title_small", .object [sized 10]),
    ("caption_description_small", .object [sansSerif, colored "90949C", sized 8]),
    ("caption_credit", .object [colored "BEC3C9", sized 7]),
    ("footer", .object [sansSerif, colored "90949C", sized 8, sideMargins])]

/-- the usual style -/
def style : Json :=
  .object <|
    [("name", .text "Default"), ("background_color", .text "#FFFFFF"),
      ("header", .object [("background_color", .text "#FFFFFF"), ("bar_color", .text "#E9EBEE")]),
      ("date_format", .text Properties.usualDateFormat)]
      ++ headerStyle ++ textStyle ++ quoteStyle ++ endStyle

/-! ## The general style sheet -/

/-- a class behind the usual prefix, as a selector -/
def ofClass (name : String) : String := "." ++ Css.RuleSet.defaultPrefix ++ name

/-- the rules of the general sheet: selectors, and declarations -/
def rules : List (List String × List (String × String)) :=
  [(["body"], [("margin", "0")]),
    ([ofClass "spacing"], [("height", "16px")]),
    ([ofClass "header-bar"], [("min-height", "26px")]),
    ([ofClass "header-bar-img-container"], [("padding", "8px 16.4px")]),
    ([ofClass "cover-image"], [("margin", "0 auto")]),
    (["figure" ++ ofClass "figure"], [("margin", "0")]),
    (["figcaption" ++ ofClass "op-left"], [("text-align", "left")]),
    (["figcaption" ++ ofClass "op-center"], [("text-align", "center")]),
    (["figcaption" ++ ofClass "op-right"], [("text-align", "right")]),
    (["figcaption" ++ ofClass "figcaption" ++ " cite"], [("display", "block"), ("font-style", "normal")]),
    (["aside" ++ ofClass "pullquote" ++ " cite"], [("display", "block")]),
    ([ofClass "audio", ofClass "related-articles"], [("display", "none")])]

/-- a rule on lines of its own -/
def ruleText (rule : List String × List (String × String)) : String :=
  Text.joinWith ",\n" rule.1 ++ " \x7b\n"
    ++ String.join (rule.2.map fun d => "    " ++ d.1 ++ ": " ++ d.2 ++ ";\n") ++ "\x7d\n"

/-- the general style sheet -/
def sheet : String := Text.joinWith "\n" (rules.map ruleText)

/-! ## Files -/

/-- the folders of the resources inside a folder -/
def folders (root : String) : Folders := ⟨Disk.join root "styles", Disk.join root "stylesheets"⟩

/-- the folders of a conversion: the given ones, else the folder of styles in the options, else those of the resources -/
def foldersFor (root : String) (p : Properties) (styles sheets : Option String) : Folders :=
  ⟨Disk.normalize ((styles.orElse fun _ => p.stylesFolder).getD (folders root).styles),
    Disk.normalize (sheets.getD (folders root).sheets)⟩

/-- a disk with the resources inside a folder -/
def install (root : String) (d : Disk) : Disk :=
  let files := folders root
  (d.put (d.place (Disk.join files.styles "default.style.json")) (.file style.write.toUTF8.toList)).put
    (d.place (Disk.join files.sheets "amp.css")) (.file sheet.toUTF8.toList)

end AmpArticle.Page.Resources
