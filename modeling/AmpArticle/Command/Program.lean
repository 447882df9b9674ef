import AmpArticle.Command.Help

/-!
The command line of the program: options of its own, and one command with the options of a conversion.
-/

namespace AmpArticle.Command

/-- the name of the program -/
def programName : String := "ia2amp"

/-- the option for a detailed log -/
def verboseFlag : Flag := ⟨["-v", "--verbose"], none, false, "Enable verbose output"⟩

/-- the options of the program -/
def programFlags : List Flag := [.helpFlag, verboseFlag]

/-- the command -/
def commandName : String := "convert"

/-- an option with a value -/
def valueFlag (name placeholder help : String) : Flag := ⟨[name], some placeholder, false, help⟩

/-- the options of a conversion -/
def commandFlags : List Flag :=
  [.helpFlag, { valueFlag "--article" "ARTICLE" "Path to the article JSON file" with required := true },
    valueFlag "--properties" "PROPERTIES" "Path to a JSON file with conversion properties",
    valueFlag "--style-file" "STYLE_FILE" "Path to a style JSON file, used instead of the styles folder",
    valueFlag "--output" "OUTPUT" "Output file for the AMP document (default: stdout)",
    valueFlag "--css-output" "CSS_OUTPUT" "Also write the custom CSS to this file",
    valueFlag "--lang" "LANG" "Language of the document (lang attribute of <html>)",
    valueFlag "--prefix" "PREFIX" "CSS class prefix (default: ia2amp-)",
    valueFlag "--media-cache" "MEDIA_CACHE"
      "Folder with local copies of the article media, used for sizing",
    ⟨["--download-media-sizes"], none, false,
      "Download images to read their size when it is not known"⟩,
    valueFlag "--maps-api-key" "MAPS_API_KEY" "Google Maps API key for map embeds"]

/-- what a conversion is asked to do -/
structure Order where
  verbose : Bool
  article : String
  properties : Option String
  styleFile : Option String
  output : Option String
  cssOutput : Option String
  language : Option String
  classPrefix : Option String
  mediaCache : Option String
  download : Bool
  mapsKey : Option String
  deriving DecidableEq, Inhabited

/-- what a command line asks for: help, nothing that makes sense, or a conversion -/
inductive Plan where
  | help (text : String)
  | misuse (text : String)
  | convert (order : Order)
  deriving DecidableEq, Inhabited

/-- the usage of the program -/
def programUsage : String :=
  usage programName (programFlags.map Flag.usage ++ ["\x7b" ++ commandName ++ "\x7d ..."])

/-- the help of the program -/
def programHelp : String :=
  let commands : List Entry :=
    [⟨4, commandName, "Convert an article JSON file into an AMP document"⟩]
  let options := programFlags.map Flag.entry
  let choice := "\x7b" ++ commandName ++ "\x7d"
  let column := columnOf (options ++ ⟨2, choice, ""⟩ :: commands)
  programUsage ++ "\nConvert Instant Articles into AMP HTML documents\n\n"
    ++ section_ "options" column options ++ "\ncommands:\n  Available commands\n\n  " ++ choice ++ "\n"
    ++ String.join (commands.map fun e => e.text column)

/-- the name of the command, as its messages begin -/
def commandProgram : String := programName ++ " " ++ commandName

/-- the usage of the command -/
def commandUsage : String := usage commandProgram (commandFlags.map Flag.usage)

/-- the help of the command -/
def commandHelp : String :=
  let options := commandFlags.map Flag.entry
  commandUsage ++ "\nConvert an Instant Article, given as JSON, into an AMP HTML document.\n\n"
    ++ section_ "options" (columnOf options) options

/-- a complaint of the program or its command -/
def complaint (usage program problem : String) : Plan := .misuse (usage ++ program ++ ": error: " ++ problem ++ "\n")

/-- the complaint about words that nobody asked for -/
def unrecognized (words : List String) : Plan :=
  complaint programUsage programName ("unrecognized arguments: " ++ Text.joinWith " " words)

/-- the order that the options of a conversion make -/
def orderOf (verbose : Bool) (p : Parsed) : Order :=
  ⟨verbose, (p.value? "--article").getD "", p.value? "--properties", p.value? "--style-file", p.value? "--output",
    p.value? "--css-output", p.value? "--lang", p.value? "--prefix", p.value? "--media-cache",
    p.has "--download-media-sizes", p.value? "--maps-api-key"⟩

/-- what the words behind the command ask for; `outer` is what was said in front of it -/
def planCommand (outer : Parsed) (words : List String) : Plan :=
  match read commandFlags false words with
  | .error .help => .help commandHelp
  | .error (.misuse problem) => complaint commandUsage commandProgram problem
  | .ok p =>
    match outer.extras ++ p.extras with
    | [] => .convert (orderOf (outer.has verboseFlag.name) p)
    | extras => unrecognized extras

/-- what a command line asks for -/
def plan (words : List String) : Plan :=
  match read programFlags true words with
  | .error .help => .help programHelp
  | .error (.misuse problem) => complaint programUsage programName problem
  | .ok p =>
    match p.command, p.extras with
    | some (name :: rest), _ =>
      if name = commandName then planCommand p rest
      else
        complaint programUsage programName
          s!"argument command: invalid choice: {Text.quoted name} (choose from {Text.quoted commandName})"
    | _, [] => .help programHelp
    | _, extras => unrecognized extras

end AmpArticle.Command
