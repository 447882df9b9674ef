import AmpArticle.Css.Style
import AmpArticle.Page.Analytics
import AmpArticle.Page.Content
import AmpArticle.Page.Footer
import AmpArticle.Page.Header
import AmpArticle.Page.Metadata
import AmpArticle.Page.Serialize
import AmpArticle.Text.Utf8

/-!
Whole pages. The head comes first with all that is known before the content is built; the style is compiled behind the
content, so that the rules of both stand in one sheet. What depends on the style or on the used features is put in
last: the logo, the date, the style sheet, the tracking elements and the scripts.
-/

namespace AmpArticle.Page

open Markup (Element Node Mark)

variable [Room]

/-- where styles and style sheets lie -/
structure Folders where
  styles : String
  sheets : String
  deriving DecidableEq, Inhabited

/-! ## Style and style sheets -/

/-- a warning about a file that could not be read -/
def warnFile (message path : String) (cause : Fault) : Rendering Unit := Rendering.warnText message path (some cause)

/-- the file of a style -/
def stylePath (c : Setting) (f : Folders) : String := Disk.join f.styles (c.article.style ++ ".style.json")

/-- the style description of an article: the one in the options, else the one in its file; a file that cannot be read
is no description, after a warning -/
def styleOf (c : Setting) (f : Folders) : Rendering Json := do
  match c.properties.overrideStyles with
  | some entries => return .object entries
  | none =>
    let path := stylePath c f
    match c.resolver.disk.read path with
    | .ok bytes =>
      let text ← liftM (Text.ofFileBytes bytes)
      match Json.load .styleFile text with
      | .ok v => return v
      | .error (.malformed e) => warnFile s!"Could not load style file {path}: {e.message}" path (.unreadableJson e)
      | .error (.beyond limit) => throw (.limit limit)
    | .error (.file .notFound p) =>
      warnFile s!"Style file {path} not found, rendering without style." path (.file .notFound p)
    | .error (.file cause p) =>
      warnFile s!"Could not load style file {path}: {(Fault.file cause p).message}" path (.file cause p)
    | .error fault => throw fault
    return .object []

/-- the style compiled into the rules of the page -/
def compileStyle (c : Setting) (f : Folders) : Rendering Css.Style := do
  let given ← styleOf c f
  let rules := (← get).rules
  match (Css.Style.compile rules.classPrefix (some c.resolver.resolveAny) given).run Css.Draft.empty with
  | .error fault => throw fault
  | .ok (style, draft) =>
    modify fun s => { s with
      rules := draft.declareIn s.rules
      warnings := s.warnings ++ draft.warnings
      log := s.log ++ draft.log }
    return style

/-- a style sheet; one that there is not is empty -/
def sheet (c : Setting) (path : String) : Rendering String := do
  match c.resolver.disk.read path with
  | .ok bytes => liftM (Text.ofFileBytes bytes)
  | .error (.file cause p) =>
    Rendering.note [⟨.debug, s!"No stylesheet at {path}: {(Fault.file cause p).message}"⟩]
    return ""
  | .error fault => throw fault

/-- a text on one line -/
def unbroken (s : String) : String := String.ofList (s.toList.filter fun c => c ≠ '\r' && c ≠ '\n')

/-- a style sheet written for the usual class prefix, for another one -/
def withPrefix (classPrefix s : String) : String :=
  Text.replaceAll ("." ++ Css.RuleSet.defaultPrefix) ("." ++ classPrefix) s

/-- the style sheet of the page as the filters leave it: the rules, the general sheet and the sheet of the style -/
def customSheet (c : Setting) (f : Folders) : Rendering (Option String) := do
  let general ← sheet c (Disk.join f.sheets "amp.css")
  let rules := (← get).rules.build false
  let own ← sheet c (Disk.join f.styles (c.article.style ++ ".style.css"))
  let css := unbroken rules ++ unbroken (withPrefix (← get).classPrefix general) ++ unbroken own
  match ← Rendering.filter .customCss (.plain (.text css)) [] with
  | .plain (.text css) => do
    liftM (Markup.checkText css)
    return some css
  | .plain .null => return none
  | v => throw (.type s!"Argument must be bytes or unicode, got '{v.kindName}'")

/-! ## Head -/

/-- the address of the runtime -/
def runtimeAddress : String := "https://cdn.ampproject.org/v0.js"

/-- how a page fills a screen -/
def viewportContent : String :=
  "width=device-width,initial-scale=1,minimum-scale=1,maximum-scale=1,user-scalable=no"

/-- the animation that hides a page until its runtime is there, for one family of browsers -/
def startAnimation (vendor : String) : String := vendor ++ "animation:-amp-start 8s steps(1,end) 0s 1 normal both"

/-- the frames of the animation, for one family of browsers -/
def startFrames (vendor : String) : String :=
  "@" ++ vendor ++ "keyframes -amp-start\x7bfrom\x7bvisibility:hidden\x7dto\x7bvisibility:visible\x7d\x7d"

/-- the style that every page must have -/
def boilerplate : String :=
  "body\x7b" ++ Text.joinWith ";" (["-webkit-", "-moz-", "-ms-", ""].map startAnimation) ++ "\x7d" ++
    String.join (["-webkit-", "-moz-", "-ms-", "-o-", ""].map startFrames)

/-- the style that every page must have where scripts do not run -/
def noScriptBoilerplate : String :=
  "body\x7b" ++ Text.joinWith ";" (["-webkit-", "-moz-", "-ms-", ""].map (· ++ "animation:none")) ++ "\x7d"

/-- an element with attributes that need no check -/
def plainElement (tag : String) (attributes : List (String × String)) : Element :=
  attributes.foldl (fun e a => e.put a.1 a.2) (Element.bare tag)

/-- an element with a text that needs no check -/
def holding (e : Element) (s : String) : Element := { e with children := [.text s] }

/-- the elements of a head that depend on the article -/
structure Head where
  charset : Element
  canonical : Element
  metadata : Element
  title : Element
  deriving Inhabited

/-- the elements of a head that depend on the article, in the order in which they are made -/
def headParts (c : Setting) : Rendering Head := do
  let charset ← Rendering.create "meta" none [("charset", c.article.charset)]
  let canonical ← Rendering.create "link" none [("rel", "canonical"), ("href", c.article.canonicalUrl)]
  let description ← metadata c
  let script ← liftM ((plainElement "script" [("type", "application/ld+json")]).setText description)
  let title ← liftM (Markup.plainText (c.article.header.title.getD ""))
  let titleElement ← liftM ((Element.bare "title").setText title)
  return ⟨charset, canonical, script, titleElement⟩

/-- the script of a feature -/
def featureScript (f : Feature) : Element :=
  plainElement "script" [("async", ""), ("custom-element", f.tag), ("src", f.scriptAddress)]

/-- the style sheet of a page in its element -/
def sheetElement (css : Option String) : Element :=
  let e := plainElement "style" [("amp-custom", "")]
  match css with
  | some css => { e with children := if css.isEmpty then [] else [.text css] }
  | none => e

/-- the head of a page before the scripts of features are put into it -/
def Head.assemble (h : Head) (css : Option String) : Element :=
  let style := plainElement "style" [("amp-boilerplate", "")]
  (Element.bare "head").append <|
    [h.charset, plainElement "meta" [("name", "viewport"), ("content", viewportContent)],
      plainElement "script" [("async", ""), ("src", runtimeAddress)], holding style boilerplate,
      (Element.bare "noscript").append [(holding style noScriptBoilerplate).toNode],
      h.canonical, sheetElement css, h.metadata, h.title].map Element.toNode

/-- whether a node is the script that loads the runtime -/
def isRuntime (n : Node) : Bool :=
  n.element?.any fun e => e.tag == "script" && e.attribute? "src" == some runtimeAddress

/-- nodes with the scripts of the used ones among features put in from a place on, one behind the other -/
def insertScripts (used : List Feature) : List Feature → Nat → List Node → List Node
  | [], _, nodes => nodes
  | f :: rest, place, nodes =>
    if used.contains f then insertScripts used rest (place + 1) (nodes.insertIdx place (featureScript f).toNode)
    else insertScripts used rest place nodes

/-- a head with the scripts of the used features right behind the runtime -/
def addFeatureScripts (used : List Feature) (head : Element) : Except Fault Element :=
  match head.children.findIdx? isRuntime with
  | some place => .ok { head with children := insertScripts used Feature.all (place + 1) head.children }
  | none => .error (.type "Argument 'child' has incorrect type (expected lxml.etree._Element, got NoneType)")

/-! ## Page -/

/-- the nodes of a part that may be missing -/
def partNodes (part : Option Built) : List Node :=
  match part with
  | some built => built.nodes
  | none => []

/-- the root element without content -/
def rootElement (c : Setting) : Rendering Element :=
  Rendering.create "html" none <|
    [("amp", "")] ++ (if c.article.rightToLeft then [("dir", "rtl")] else [])
      ++ (match present? c.properties.language with
        | some language => [("lang", language)]
        | none => [])

/-- what a page begins with: its root, the parts of its head, the header and the content -/
structure Opening where
  root : Element
  head : Head
  header : Option Built
  content : Element
  deriving Inhabited

/-- the beginning of a page, in the order in which its parts are made -/
def opening (c : Setting) : Rendering Opening := do
  let root ← rootElement c
  let head ← headParts c
  let top ← header c c.article.header
  let middle ← content c c.article.items
  return ⟨root, head, top, middle⟩

/-- the content of a body: the header, the items and the footer -/
def Opening.bodyNodes (o : Opening) (bottom : Option Built) : List Node :=
  partNodes o.header ++ [o.content.toNode] ++ partNodes bottom

/-- a page and its style sheet; the filters may leave anything in the place of the root -/
def document (c : Setting) (f : Folders) : Rendering (Extension.Value × Option String) := do
  let page ← opening c
  let bottom ← footer c.article.footer
  let style ← compileStyle c f
  let nodes ← placeLogo style.logo (page.bodyNodes bottom)
  let pattern := (present? style.dateFormat).getD c.properties.dateFormat
  let nodes ← placeDate c.article.header.published pattern nodes
  let css ← customSheet c f
  let body ← addAnalytics c.properties.analytics ((Element.bare "body").append nodes)
  let top ← liftM (addFeatureScripts (← get).features (page.head.assemble css))
  let top ← (Built.ofElement top).filter .head []
  let whole := page.root.append (partNodes top ++ [body.toNode])
  let root ← Rendering.filter .html (.node whole.toNode true) []
  return (root, css)

/-! ## Conversion -/

/-- a finished page: its text, its style sheet and what was found on the way -/
structure Result where
  html : String
  css : Option String
  warnings : List Warning
  deriving Inhabited

/-- the text of a page with all dividers completed; nothing but an element has one -/
def pageText (root : Extension.Value) : Rendering String := do
  match root with
  | .node n _ =>
    match ((← get).settle n).element? with
    | some e => return serialize e
    | none => throw (.type "Type 'HtmlComment' cannot be serialized.")
  | .plain v => throw (.type s!"Type '{v.kindName}' cannot be serialized.")

/-- the address of an article as a log line shows it -/
def shownAddress (a : Article) : String := if a.canonicalUrl.isEmpty then "(no canonical URL)" else a.canonicalUrl

/-- a list of features as a log line shows it -/
def shownFeatures (features : List Feature) : String :=
  if features.isEmpty then "none" else Text.joinWith ", " ((Feature.inOrder features).map Feature.tag)

/-- the conversion of an article into a page -/
def conversion (c : Setting) (f : Folders) : Rendering Result := do
  Rendering.note [⟨.info,
    s!"Converting article {shownAddress c.article} with {c.article.items.length} content nodes"⟩]
  let (root, css) ← document c f
  let html ← pageText root
  let s ← get
  Rendering.note [⟨.info,
    s!"Converted article with {s.warnings.length} warning(s), features: {shownFeatures s.features}"⟩]
  return ⟨html, css, s.warnings⟩

/-- how a conversion ends, and what it has gathered -/
def convert (c : Setting) (f : Folders) (observer : Extension.Observer) : Except Fault Result × State :=
  (conversion c f).run.run (State.start c.properties.classPrefix observer)

end AmpArticle.Page
