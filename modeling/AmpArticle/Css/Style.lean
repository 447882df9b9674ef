import AmpArticle.Article.Caption
import AmpArticle.Css.Logo
import AmpArticle.Css.TextStyle

/-!
Style descriptions: objects that say how the parts of an article look. Each recognised key becomes declarations on
fixed selectors behind the class prefix. What is malformed leads to a warning and is skipped.
-/

namespace AmpArticle.Css

/-- what a style description says beyond its declarations -/
structure Style where
  logo : Option Logo
  dateFormat : Option String
  deriving Inhabited

namespace Style

open Drafting

variable [Room]

/-- a selector of an element with a prefixed class: the element, and what follows the prefix -/
structure Selector where
  element : String
  rest : String
  deriving DecidableEq, Inhabited

/-- the selector behind a class prefix -/
def Selector.text (classPrefix : String) (s : Selector) : String := s.element ++ "." ++ classPrefix ++ s.rest

/-- the text styles of the head of an article -/
def headSelectors : List (String × List Selector) :=
  [("kicker", [⟨"h2", "header-category"⟩]), ("title", [⟨"h1", "header-h1"⟩]), ("subtitle", [⟨"h2", "header-subtitle"⟩]),
    ("byline", [⟨"h3", "header-author"⟩, ⟨"h3", "header-date"⟩])]

/-- the text styles of its body -/
def bodySelectors : List (String × List Selector) :=
  [("primary_heading", [⟨"h1", "h1"⟩]), ("secondary_heading", [⟨"h2", "h2"⟩]),
    ("body_text", [⟨"p", "p"⟩, ⟨"ol", "list"⟩, ⟨"ul", "list"⟩]), ("inline_link", [⟨"article", "article a"⟩])]

/-- the text styles of quotes -/
def quoteSelectors : List (String × List Selector) :=
  [("block_quote", [⟨"blockquote", "blockquote"⟩]), ("pull_quote", [⟨"aside", "pullquote"⟩]),
    ("pull_quote_attribution", [⟨"aside", "pullquote cite"⟩])]

/-- the text styles of captions: title and description for each size, and the credit -/
def captionSelectors : List (String × List Selector) :=
  (FontSize.all.flatMap fun size =>
    [("caption_title_" ++ size.styleSuffix, [⟨"figcaption", size.className ++ " h1"⟩]),
      ("caption_description_" ++ size.styleSuffix, [⟨"figcaption", size.className⟩])])
    ++ [("caption_credit", [⟨"figcaption", "figcaption cite"⟩])]

/-- the text style of the footer -/
def footerSelectors : List (String × List Selector) := [("footer", [⟨"footer", "footer"⟩])]

/-- all text styles in the order of their rules -/
def selectors : List (String × List Selector) :=
  headSelectors ++ bodySelectors ++ quoteSelectors ++ captionSelectors ++ footerSelectors

/-- the selectors of a text style behind a class prefix -/
def selectorText (classPrefix : String) (ss : List Selector) : String :=
  Text.joinWith ", " (ss.map (Selector.text classPrefix))

/-- the background of the page -/
def background (style : List (String × Json)) : Drafting Unit := do
  match ← color ((lookup? "background_color" style).getD .null) "background_color" with
  | some rgb => declare "html" "background-color" rgb
  | none => return ()

/-- one text style -/
def textStyle (classPrefix : String) (style : List (String × Json)) (key : String) (ss : List Selector) :
    Drafting Unit :=
  match (lookup? key style).getD .null with
  | .null => return ()
  | .object block => TextStyle.draft ⟨selectorText classPrefix ss, block, key⟩
  | v => warn s!"Style block {key} must be an object, ignoring it." v none

/-- the colours of the bar at the top, and of the divider behind it, which has the class `spacing` -/
def headerColors (classPrefix : String) (header : List (String × Json))
    (spacing : String := RuleSet.spacingClass) : Drafting Unit := do
  let bar := "." ++ classPrefix ++ "header-bar"
  match ← color ((lookup? "background_color" header).getD .null) "header.background_color" with
  | some rgb => declare bar "background-color" rgb
  | none => pure ()
  match ← color ((lookup? "bar_color" header).getD .null) "header.bar_color" with
  | some rgb => declare (bar ++ " + ." ++ classPrefix ++ spacing) "border-top" ("1px solid " ++ rgb)
  | none => pure ()

/-- the header block: its colours and its logo; anything but an object says nothing -/
def headerBlock (classPrefix : String) (resolve? : Option (Json → Except Fault Media.Lookup))
    (style : List (String × Json)) (spacing : String := RuleSet.spacingClass) : Drafting (Option Logo) :=
  match lookup? "header" style with
  | some (.object entries) => do
    headerColors classPrefix entries spacing
    Logo.ofHeader resolve? entries
  | _ => return none

/-- the pattern of the date -/
def datePattern (style : List (String × Json)) : Drafting (Option String) :=
  match (lookup? "date_format" style).getD .null with
  | .null => return none
  | .text s => return some s
  | v => do
    warn "Invalid date_format in style, ignoring it." v none
    return none

/-- the whole style description, for rules with a class prefix and a class of spacing dividers -/
def compile (classPrefix : String) (resolve? : Option (Json → Except Fault Media.Lookup)) (style : Json)
    (spacing : String := RuleSet.spacingClass) : Drafting Style :=
  match style with
  | .object entries => do
    background entries
    selectors.forM fun s => textStyle classPrefix entries s.1 s.2
    let logo ← headerBlock classPrefix resolve? entries spacing
    let format ← datePattern entries
    note [⟨.debug, s!"Compiled style with {entries.length} top-level keys"⟩]
    return ⟨logo, format⟩
  | v => do
    warn "Style description must be an object, ignoring it." v none
    return ⟨none, none⟩

end Style

end AmpArticle.Css
