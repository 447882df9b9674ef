import AmpArticle.Command.Option

/-!
What a command line says about itself: a line or more of usage, and a list of options with their help in a column of
its own. All lines fit a screen.
-/

namespace AmpArticle.Command

/-- the width of a screen, less two -/
def screenWidth : Nat := 78

/-- the column where help begins at the latest -/
def helpColumn : Nat := 24

/-- pieces put on lines of a width, as many on each as fit; `used` is the length of the line so far -/
def fill (width : Nat) (line : List String) (used : Nat) : List String → List (List String)
  | [] => if line.isEmpty then [] else [line]
  | piece :: rest =>
    if !line.isEmpty && width < used + 1 + piece.length then
      line :: fill width [piece] piece.length rest
    else fill width (line ++ [piece]) (if line.isEmpty then piece.length else used + 1 + piece.length) rest

/-- a text on lines of a width, broken at spaces -/
def wrap (width : Nat) (s : String) : List String :=
  (fill width [] 0 (s.splitOn " ")).map (Text.joinWith " ")

/-- spaces -/
def spaces (n : Nat) : String := String.ofList (List.replicate n ' ')

/-- an option as usage shows it -/
def Flag.usage (f : Flag) : String :=
  let shown := match f.placeholder with
    | some p => f.name ++ " " ++ p
    | none => f.spellings.head?.getD ""
  if f.required then shown else "[" ++ shown ++ "]"

/-- the usage of a program -/
def usage (program : String) (parts : List String) : String :=
  let start := "usage: " ++ program
  let whole := Text.joinWith " " (start :: parts)
  if whole.length ≤ screenWidth then whole ++ "\n"
  else
    let indent := spaces (start.length + 1)
    let lines := fill (screenWidth - indent.length) [] 0 parts
    String.join ((lines.zipIdx).map fun (line, i) =>
      (if i = 0 then start ++ " " else indent) ++ Text.joinWith " " line ++ "\n")

/-- something with help: its indentation, how it is written and its help -/
structure Entry where
  indent : Nat
  shown : String
  help : String
  deriving Inhabited

/-- an option as an entry -/
def Flag.entry (f : Flag) : Entry :=
  ⟨2, Text.joinWith ", " (f.spellings.map fun s => match f.placeholder with
    | some p => s ++ " " ++ p
    | none => s), f.help⟩

/-- the column where the help of entries begins -/
def columnOf (entries : List Entry) : Nat :=
  Nat.min helpColumn (2 + (entries.map fun e => e.indent + e.shown.length).foldl Nat.max 0)

/-- an entry with its help beside it, or below when it is too long -/
def Entry.text (e : Entry) (column : Nat) : String :=
  let help := wrap (screenWidth - column) e.help
  let shown := spaces e.indent ++ e.shown
  let below (lines : List String) : String := String.join (lines.map fun l => spaces column ++ l ++ "\n")
  if shown.length + 2 ≤ column then
    match help with
    | [] => shown ++ "\n"
    | first :: rest => shown ++ spaces (column - shown.length) ++ first ++ "\n" ++ below rest
  else shown ++ "\n" ++ below help

/-- the entries below a heading -/
def section_ (title : String) (column : Nat) (entries : List Entry) : String :=
  title ++ ":\n" ++ String.join (entries.map fun e => e.text column)

end AmpArticle.Command
