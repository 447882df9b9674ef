import AmpArticle.Json.Basic

/-!
Options of a command line. An option has one or two spellings and may take a value: from the next word, or behind an
equals sign. A long spelling may be cut short as long as only one option begins like that; short ones may be written
together behind one dash. Behind two dashes alone all words are plain.
-/

namespace AmpArticle.Command

/-- an option: its spellings, the placeholder of its value when it takes one, whether it must be there, and its help -/
structure Flag where
  spellings : List String
  placeholder : Option String
  required : Bool
  help : String
  deriving DecidableEq, Inhabited

namespace Flag

/-- the long spelling of an option -/
def name (f : Flag) : String := f.spellings.getLast?.getD ""

/-- all spellings of an option, as a message names it -/
def label (f : Flag) : String := Text.joinWith "/" f.spellings

/-- whether an option takes a value -/
def takesValue (f : Flag) : Bool := f.placeholder.isSome

/-- the option that asks for help -/
def helpFlag : Flag := ⟨["-h", "--help"], none, false, "show this help message and exit"⟩

end Flag

/-- what a word of a command line is: a plain word, the separator, or an option with the spelling that was meant and a
value that is part of the word -/
inductive Token where
  | word
  | separator
  | unknown
  | flag (f : Flag) (spelling : String) (given : Option String)
  deriving Inhabited

/-- every option under each of its spellings -/
def spelled (flags : List Flag) : List (String × Flag) := flags.flatMap fun f => f.spellings.map fun s => (s, f)

/-- a word cut at its first equals sign -/
def cutAtEquals (cs : List Char) : String × Option String :=
  (String.ofList (cs.takeWhile (· ≠ '=')),
    match cs.dropWhile (· ≠ '=') with
    | _ :: rest => some (String.ofList rest)
    | [] => none)

/-- the options that a word may mean when it spells none in full -/
def candidates (flags : List Flag) (cs : List Char) : List (String × Token) :=
  match cs with
  | '-' :: '-' :: _ =>
    let (start, given) := cutAtEquals cs
    (spelled flags).filterMap fun (s, f) => if start.toList.isPrefixOf s.toList then some (s, .flag f s given) else none
  | _ =>
    let short := String.ofList (cs.take 2)
    (spelled flags).filterMap fun (s, f) =>
      if s = short then some (s, .flag f s (some (String.ofList (cs.drop 2))))
      else if cs.isPrefixOf s.toList then some (s, .flag f s none)
      else none

/-- whether a word is a negative number -/
def isNegativeNumber (cs : List Char) : Bool :=
  match cs with
  | '-' :: rest =>
    let fraction := (rest.dropWhile Char.isDigit).drop 1
    let whole := !rest.isEmpty && rest.all Char.isDigit
    whole || ((rest.dropWhile Char.isDigit).head? == some '.' && !fraction.isEmpty && fraction.all Char.isDigit)
  | _ => false

/-- what a word means, or why that cannot be told -/
def classify (flags : List Flag) (word : String) : Except String Token :=
  let cs := word.toList
  if cs.head? ≠ some '-' then .ok .word
  else
    match lookup? word (spelled flags) with
    | some f => .ok (.flag f word none)
    | none =>
      let (start, given) := cutAtEquals cs
      match cs.length, lookup? start (spelled flags), given, candidates flags cs with
      | 1, _, _, _ => .ok .word
      | _, some f, some given, _ => .ok (.flag f start (some given))
      | _, _, _, [(_, token)] => .ok token
      | _, _, _, [] => .ok (if isNegativeNumber cs || cs.contains ' ' then .word else .unknown)
      | _, _, _, several =>
        .error (s!"ambiguous option: {word} could match " ++ Text.joinWith ", " (several.map Prod.fst))

/-- the words with what they mean; a separator makes all words behind it plain -/
def classifyAll (flags : List Flag) : List String → Except String (List (String × Token))
  | [] => .ok []
  | word :: rest =>
    if word = "--" then .ok ((word, .separator) :: rest.map fun w => (w, .word))
    else do
      let token ← classify flags word
      return (word, token) :: (← classifyAll flags rest)

/-- what words of a command line say: options with their values in order, words that nobody asked for, and the words
from the command on -/
structure Parsed where
  given : List (Flag × String)
  extras : List String
  command : Option (List String)
  deriving Inhabited

/-- why reading a command line ends early -/
inductive Halt where
  | help
  | misuse (problem : String)
  deriving DecidableEq, Inhabited

/-- the complaint about a value that nobody takes -/
def ignoredValue (f : Flag) (value : List Char) : Halt :=
  .misuse s!"argument {f.label}: ignored explicit argument {Text.quoted (String.ofList value)}"

/-- an option with the rest of its word: the options in front that take no value, the last one and its value -/
def expand (flags : List Flag) (f : Flag) (short : Bool) : List Char → Except Halt (List Flag × Flag × Option String)
  | [] => if f.takesValue then .ok ([], f, some "") else .error (ignoredValue f [])
  | c :: rest =>
    if f.takesValue then .ok ([], f, some (String.ofList (c :: rest)))
    else if !short then .error (ignoredValue f (c :: rest))
    else
      match lookup? (String.ofList ['-', c]) (spelled flags) with
      | none => .error (ignoredValue f (c :: rest))
      | some next =>
        if rest.isEmpty then .ok ([f], next, none)
        else do
          let (front, last, given) ← expand flags next true rest
          return (f :: front, last, given)

/-- whether a spelling has one dash -/
def isShort (spelling : String) : Bool := (spelling.toList.drop 1).head? ≠ some '-'

/-- options noted in order; the one for help ends it -/
def noteAll (p : Parsed) : List (Flag × String) → Except Halt Parsed
  | [] => .ok p
  | (f, value) :: rest =>
    if f.name = Flag.helpFlag.name then .error .help else noteAll { p with given := p.given ++ [(f, value)] } rest

/-- options read so far, and perhaps one that still waits for its value with those written in front of it -/
structure Reading where
  parsed : Parsed
  waiting : Option (List (Flag × String) × Flag)
  deriving Inhabited

/-- the complaint about an option without its value -/
def missingValue (f : Flag) : Halt := .misuse s!"argument {f.label}: expected one argument"

/-- an option that was met: noted, unless it takes a value that has not come yet -/
def meet (flags : List Flag) (p : Parsed) (f : Flag) (spelling : String) (given : Option String) :
    Except Halt Reading := do
  let (front, last, value) ← match given with
    | some value => expand flags f (isShort spelling) value.toList
    | none => pure ([], f, none)
  let plain := front.map fun f => (f, "")
  if value.isNone && last.takesValue then return ⟨p, some (plain, last)⟩
  return ⟨← noteAll p (plain ++ [(last, value.getD "")]), none⟩

/-- what the words say, added to what was said before; `hasCommand` says that the first plain word is a command -/
def parse (flags : List Flag) (hasCommand : Bool) : Reading → List (String × Token) → Except Halt Parsed
  | ⟨p, none⟩, [] => .ok p
  | ⟨_, some (_, f)⟩, [] => .error (missingValue f)
  | ⟨p, some (front, f)⟩, (w, .word) :: rest => do
    parse flags hasCommand ⟨← noteAll p (front ++ [(f, w)]), none⟩ rest
  | ⟨_, some (_, f)⟩, _ :: _ => .error (missingValue f)
  | ⟨p, none⟩, (_, .flag f spelling given) :: rest => do
    parse flags hasCommand (← meet flags p f spelling given) rest
  | ⟨p, none⟩, (w, .unknown) :: rest => parse flags hasCommand ⟨{ p with extras := p.extras ++ [w] }, none⟩ rest
  | ⟨p, none⟩, (w, token) :: rest =>
    if hasCommand && (token matches .word || !rest.isEmpty) then
      .ok { p with command := some (w :: rest.map Prod.fst) }
    else parse flags hasCommand ⟨{ p with extras := p.extras ++ [w] }, none⟩ rest

/-- the options that must be there and are not -/
def missing (flags : List Flag) (p : Parsed) : List Flag :=
  flags.filter fun f => f.required && !p.given.any fun g => g.1.name = f.name

/-- what a command line says -/
def read (flags : List Flag) (hasCommand : Bool) (words : List String) : Except Halt Parsed := do
  let tokens ← (classifyAll flags words).mapError Halt.misuse
  let p ← parse flags hasCommand ⟨⟨[], [], none⟩, none⟩ tokens
  match missing flags p with
  | [] => return p
  | fs => throw (.misuse ("the following arguments are required: " ++ Text.joinWith ", " (fs.map Flag.label)))

/-- whether an option was given -/
def Parsed.has (p : Parsed) (name : String) : Bool := p.given.any fun g => g.1.name = name

/-- the value of an option; the last one counts -/
def Parsed.value? (p : Parsed) (name : String) : Option String :=
  (p.given.reverse.find? fun g => g.1.name = name).map Prod.snd

end AmpArticle.Command
