import AmpArticle.Command.Program
import AmpArticle.Page.Resources

/-!
A run of the program on the files that it finds. What cannot be loaded ends a run with a complaint in the log; what
cannot be decoded as text does not, it is a failure of the run itself.
-/

namespace AmpArticle.Command

open Media (LogLine LogLevel)

/-- how a run ends: its exit code, what it prints, what it says beside that, and the disk with what it has written -/
structure Outcome where
  exit : Nat
  output : String
  messages : String
  written : List (String × String)
  disk : Disk
  deriving Inhabited

/-- what a run works with: the files, the web and the folder of the resources -/
structure Surroundings where
  disk : Disk
  web : Media.Web
  resources : String
  deriving Inhabited

/-! ## Log -/

/-- a level as the log shows it -/
def levelName : LogLevel → String
  | .debug => "DEBUG"
  | .info => "INFO"
  | .warning => "WARNING"
  | .error => "ERROR"

/-- a line of the log -/
def lineText (l : LogLine) : String := levelName l.level ++ ": " ++ l.text ++ "\n"

/-- the log; details only when they are asked for -/
def logText (verbose : Bool) (log : List LogLine) : String :=
  String.join ((log.filter fun l => verbose || l.level ≠ .debug).map lineText)

/-! ## Loading -/

/-- whether a failure to load ends a run with a complaint -/
def isLoadFault : Fault → Bool
  | .file .. | .unreadableJson _ | .invalid .. => true
  | _ => false

/-- the issues of a record, one after the other, below their number -/
def issuesText (record : String) (issues : List Issue) : String :=
  let count := toString issues.length ++ (if issues.length = 1 then " validation error for " else " validation errors for ")
  count ++ record ++ String.join (issues.map fun i => "\n" ++ Text.joinWith "." i.path ++ "\n  " ++ i.kind.code)

/-- a failure to load, as the log shows it -/
def loadFaultText : Fault → String
  | .invalid record issues => issuesText record issues
  | fault => fault.message

/-- the text of a file -/
def textOf (d : Disk) (path : String) : Except Fault String := do
  Text.ofFileBytes (← d.read path)

variable [Room]

/-- the value written in a file, read at a place -/
def valueOf (d : Disk) (place : Place) (path : String) : Except Fault Json := do
  (Json.load place (← textOf d path)).mapError (Json.Unread.fault .unreadableJson)

/-- entries with one set, when there is a value for it -/
def withGiven (name : String) (value : Option Json) (e : Entries) : Entries :=
  match value with
  | some v => insertEntry name v e
  | none => e

/-- the entries of options with those of the command line put over them -/
def overriding (o : Order) (e : Entries) : Entries :=
  let e := withGiven "lang" (o.language.map .text) e
  let e := withGiven "css_prefix" (o.classPrefix.map .text) e
  let e := withGiven "media_cache_folder" (o.mediaCache.map fun path => .text (Disk.normalize path)) e
  let e := withGiven "google_maps_api_key" (o.mapsKey.map .text) e
  if o.download then insertEntry "enable_download_for_media_sizing" (.bool true) e else e

/-- options that were decoded before -/
def checkedProperties (v : Json) : Except Fault Properties :=
  (Properties.decoder .value v).toExcept "ConversionProperties"

/-- the value of a file of options; none are given without one -/
def givenOptions (d : Disk) (o : Order) : Except Fault Json :=
  match o.properties with
  | some path => valueOf d .optionsFile (Disk.normalize path)
  | none => .ok (.object [])

/-- the entries of options with the style of a style file put over theirs -/
def styling (d : Disk) (o : Order) (e : Entries) : Except Fault Entries :=
  match o.styleFile with
  | some path => do return insertEntry "override_styles" (← valueOf d .optionStyleFile (Disk.normalize path)) e
  | none => .ok e

/-- the options of a run: those of a file are checked and written out under their own names, so that no other name of
the file counts any more when the command line and a style file are put over them; then all are checked again -/
def propertiesOf (d : Disk) (o : Order) : Except Fault Properties := do
  let p ← checkedProperties (← givenOptions d o)
  checkedProperties (.object (← styling d o (overriding o p.toEntries)))

/-- the options and the article of a run -/
def load (d : Disk) (o : Order) : Except Fault (Properties × Article) := do
  let p ← propertiesOf d o
  let text ← textOf d (d.resolve o.article)
  return (p, ← (Article.ofDocument Article.decoder text).toExcept "Article")

/-! ## Running -/

/-- a file written with the folders that lead to it -/
def save (d : Disk) (path text : String) : Except Fault Disk := do
  (← d.makeFolder (Disk.parent path)).write path text

/-- the warnings of a conversion, listed at the end of the log -/
def warningLines (warnings : List Warning) : List LogLine :=
  if warnings.isEmpty then []
  else
    ⟨.warning, s!"Conversion finished with {warnings.length} warning(s):"⟩
      :: warnings.map fun w => ⟨.warning, "  - " ++ w.text⟩

/-- a file to write, when there is one, with the line that says so -/
def saveAs (d : Disk) (path : Option String) (text label : String) :
    Except Fault (Disk × List (String × String) × List LogLine) :=
  match path with
  | none => .ok (d, [], [])
  | some path => do
    let path := Disk.normalize path
    return (← save d path text, [(path, text)], [⟨.info, s!"Wrote {label}: {path}"⟩])

/-- a run that ends with a complaint -/
def refused (d : Disk) (text : String) : Outcome := ⟨1, "", logText false [⟨.error, text⟩], [], d⟩

/-- the conversion of a loaded article, and where its page goes -/
def convertLoaded (s : Surroundings) (o : Order) (p : Properties) (a : Article) : Except Fault Outcome := do
  let c : Page.Setting := ⟨a, p, ⟨p.sizeConfig, s.disk, s.web, true⟩⟩
  let (result, state) :=
    Page.convert c (Page.Resources.foldersFor s.resources p none none) Extension.Observer.empty
  let result ← result
  let (disk, pages, pageLog) ← saveAs s.disk o.output result.html "AMP document"
  let (disk, sheets, sheetLog) ← saveAs disk o.cssOutput (result.css.getD "") "custom CSS"
  return ⟨0, if o.output.isNone then result.html ++ "\n" else "",
    logText o.verbose (state.log ++ pageLog ++ sheetLog ++ warningLines result.warnings), pages ++ sheets, disk⟩

/-- a conversion as it was ordered -/
def convert (s : Surroundings) (o : Order) : Except Fault Outcome := do
  let path := s.disk.resolve o.article
  if !(← s.disk.exists? path) then return refused s.disk s!"Article file not found: {path}"
  match load s.disk o with
  | .ok (p, a) => convertLoaded s o p a
  | .error fault =>
    if isLoadFault fault then return refused s.disk s!"Failed to load conversion input: {loadFaultText fault}"
    else throw fault

/-- a run of the program -/
def run (s : Surroundings) (words : List String) : Except Fault Outcome :=
  match plan words with
  | .help text => .ok ⟨0, text, "", [], s.disk⟩
  | .misuse text => .ok ⟨2, "", text, [], s.disk⟩
  | .convert order => convert s order

end AmpArticle.Command
