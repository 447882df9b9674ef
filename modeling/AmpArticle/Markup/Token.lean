import AmpArticle.Markup.Entity
import AmpArticle.Markup.Node

/-!
Markup as a sequence of tokens: start tags, end tags, text and comments. A few elements hold text in which no tag
begins until their own end tag; of these, two still know character references, and a script in a comment of a script hides its end
tag. Line ends are one line feed, and the
null character is replaced.
-/

namespace AmpArticle.Markup

/-- a piece of markup -/
inductive Token where
  | start (tag : String) (attributes : List Attribute)
  | stop (tag : String)
  | text (content : String)
  | comment (content : String)
  deriving Inhabited

/-- the character that stands for what is no character -/
def replacement : Char := Char.ofNat 0xfffd

/-- white space between the parts of a tag -/
def isTagSpace (c : Char) : Bool := c == '\t' || c == '\n' || c.toNat == 0x0c || c == '\r' || c == ' '

/-- letters of the ASCII alphabet -/
def isLetter (c : Char) : Bool := c.isAlpha

/-- letters and digits of ASCII -/
def isAlphanumeric (c : Char) : Bool := c.isAlphanum

/-- what the numbers 0x80 to 0x9f mean in a character reference: the letters of the old Windows code page -/
def windowsLetters : List Nat :=
  [0x20ac, 0x81, 0x201a, 0x0192, 0x201e, 0x2026, 0x2020, 0x2021, 0x02c6, 0x2030, 0x0160, 0x2039, 0x0152, 0x8d, 0x017d,
    0x8f, 0x90, 0x2018, 0x2019, 0x201c, 0x201d, 0x2022, 0x2013, 0x2014, 0x02dc, 0x2122, 0x0161, 0x203a, 0x0153, 0x9d,
    0x017e, 0x0178]

/-- the character that a number refers to -/
def referredChar (n : Nat) : Char :=
  if n = 0 ∨ 0x10ffff < n ∨ (0xd800 ≤ n ∧ n < 0xe000) then replacement
  else if 0x80 ≤ n ∧ n < 0xa0 then Char.ofNat (windowsLetters.getD (n - 0x80) n)
  else Char.ofNat n

/-- a numeric reference behind `&#`: its character and what follows it -/
def readNumericReference (cs : List Char) : Option (List Char × List Char) :=
  let finish (n : Nat) (rest : List Char) :=
    match rest with
    | ';' :: more => some ([referredChar n], more)
    | _ => some ([referredChar n], rest)
  let isHex (c : Char) := (Json.hexValue? c).isSome
  match cs with
  | 'x' :: rest | 'X' :: rest =>
    let digits := rest.takeWhile isHex
    if digits.isEmpty then none else finish (hexNumber digits) (rest.dropWhile isHex)
  | _ =>
    let digits := cs.takeWhile Char.isDigit
    if digits.isEmpty then none else finish (Json.digitsValue digits) (cs.dropWhile Char.isDigit)

/-- a named reference behind `&`. Within an attribute a name without its semicolon is no reference when a letter, a
digit or an equals sign follows -/
def readNamedReference (inAttribute : Bool) (cs : List Char) : Option (List Char × List Char) :=
  let letters := (cs.take 33).takeWhile fun c => isAlphanumeric c || c == ';'
  match longestEntity? letters letters.length with
  | none => none
  | some (count, decoded) =>
    let rest := cs.drop count
    let closed := letters[count - 1]? == some ';'
    let blocked := match rest with
      | c :: _ => c == '=' || isAlphanumeric c
      | [] => false
    if inAttribute && !closed && blocked then none else some (decoded, rest)

/-- a reference behind `&` -/
def readReference (inAttribute : Bool) : List Char → Option (List Char × List Char)
  | '#' :: rest => readNumericReference rest
  | cs => readNamedReference inAttribute cs

/-- how the text of an element is read -/
inductive TextMode where
  | normal
  | withReferences (tag : String)
  | raw (tag : String)
  | script
  | toEnd
  deriving DecidableEq

/-- how the text behind a start tag is read -/
def TextMode.ofTag (tag : String) : TextMode :=
  if tag = "script" then .script
  else if ["style", "xmp", "iframe", "noembed", "noframes"].contains tag then .raw tag
  else if ["textarea", "title"].contains tag then .withReferences tag
  else if tag = "plaintext" then .toEnd
  else .normal

/-- whether the characters behind `<` begin a tag or a comment -/
def startsMarkup : List Char → Bool
  | c :: _ => isLetter c || c == '/' || c == '!' || c == '?'
  | [] => false

/-- whether `cs` begin with the name `tag` and a character that ends a name -/
def beginsTagName (tag cs : List Char) : Bool :=
  ((cs.take tag.length).map Char.toLower == tag) &&
    (match cs.drop tag.length with
      | c :: _ => isTagSpace c || c == '/' || c == '>'
      | [] => false)

/-- whether `cs`, the characters behind `<`, begin the end tag of `tag` -/
def closesTag (tag : List Char) : List Char → Bool
  | '/' :: rest => beginsTagName tag rest
  | _ => false

/-- whether text in this mode ends at a `<` in front of `cs` -/
def TextMode.endsAt (mode : TextMode) (cs : List Char) : Bool :=
  match mode with
  | .normal => startsMarkup cs
  | .withReferences tag => closesTag tag.toList cs
  | .raw tag => closesTag tag.toList cs
  | .script => closesTag "script".toList cs
  | .toEnd => false

/-- whether character references are known in this mode -/
def TextMode.hasReferences : TextMode → Bool
  | .normal => true
  | .withReferences _ => true
  | _ => false

/-- text up to the next tag, added in reverse to `soFar` -/
def readText (mode : TextMode) (soFar : List Char) : Nat → List Char → List Char × List Char
  | 0, cs => (soFar.reverse, cs)
  | _ + 1, [] => (soFar.reverse, [])
  | fuel + 1, c :: rest =>
    if c = '<' then
      if mode.endsAt rest then (soFar.reverse, c :: rest) else readText mode (c :: soFar) fuel rest
    else if c = '&' then
      match (if mode.hasReferences then readReference false rest else none) with
      | some (decoded, after) => readText mode (decoded.reverse ++ soFar) fuel after
      | none => readText mode (c :: soFar) fuel rest
    else if c = '\r' then
      match rest with
      | '\n' :: more => readText mode ('\n' :: soFar) fuel more
      | _ => readText mode ('\n' :: soFar) fuel rest
    else if c.toNat = 0 then readText mode (replacement :: soFar) fuel rest
    else readText mode (c :: soFar) fuel rest

/-- where in the text of a script a character stands: in its code, in a comment, or in a script of that comment -/
inductive ScriptPart where
  | code
  | comment
  | nested
  deriving DecidableEq

/-- the part of a script that `c` in front of `rest` leads to. The end tag of a script inside a comment leads back to
the comment, and two dashes and `>` lead out of it -/
def ScriptPart.after (part : ScriptPart) (c : Char) (rest : List Char) : ScriptPart :=
  match part, c with
  | .code, '<' => if rest.take 3 = ['!', '-', '-'] then .comment else .code
  | .comment, '<' => if beginsTagName "script".toList rest then .nested else .comment
  | .nested, '<' => if closesTag "script".toList rest then .comment else .nested
  | .code, _ => .code
  | _, '-' => if rest.take 2 = ['-', '>'] then .code else part
  | _, _ => part

/-- the text of a script up to its end tag, added in reverse to `soFar`; no end tag counts in a nested script -/
def readScript (part : ScriptPart) (soFar : List Char) : Nat → List Char → List Char × List Char
  | 0, cs => (soFar.reverse, cs)
  | _ + 1, [] => (soFar.reverse, [])
  | fuel + 1, c :: rest =>
    if c = '<' ∧ part ≠ .nested ∧ TextMode.script.endsAt rest = true then (soFar.reverse, c :: rest)
    else if c = '\r' then
      match rest with
      | '\n' :: more => readScript part ('\n' :: soFar) fuel more
      | _ => readScript part ('\n' :: soFar) fuel rest
    else
      readScript (part.after c rest) ((if c.toNat = 0 then replacement else c) :: soFar) fuel rest

/-- the text in front of the next token, and the rest -/
def TextMode.read (mode : TextMode) (cs : List Char) : List Char × List Char :=
  match mode with
  | .script => readScript .code [] cs.length cs
  | _ => readText mode [] cs.length cs

/-- a character of a name: lower case, the null character replaced -/
def nameChar (c : Char) : Char := if c.toNat = 0 then replacement else c.toLower

/-- the end of a tag's name -/
def endsTagName (c : Char) : Bool := isTagSpace c || c == '/' || c == '>'

/-- an attribute's name; an equals sign may be its first character only -/
def readAttributeName (cs : List Char) : String × List Char :=
  let ends (c : Char) := endsTagName c || c == '='
  match cs with
  | '=' :: rest => (String.ofList ('=' :: (rest.takeWhile (!ends ·)).map nameChar), rest.dropWhile (!ends ·))
  | _ => (String.ofList ((cs.takeWhile (!ends ·)).map nameChar), cs.dropWhile (!ends ·))

/-- an attribute's value up to where `ends` holds, added in reverse to `soFar` -/
def readValueText (ends : Char → Bool) (soFar : List Char) : Nat → List Char → List Char × List Char
  | 0, cs => (soFar.reverse, cs)
  | _ + 1, [] => (soFar.reverse, [])
  | fuel + 1, c :: rest =>
    if ends c then (soFar.reverse, c :: rest)
    else if c = '&' then
      match readReference true rest with
      | some (decoded, after) => readValueText ends (decoded.reverse ++ soFar) fuel after
      | none => readValueText ends (c :: soFar) fuel rest
    else if c = '\r' then
      match rest with
      | '\n' :: more => readValueText ends ('\n' :: soFar) fuel more
      | _ => readValueText ends ('\n' :: soFar) fuel rest
    else if c.toNat = 0 then readValueText ends (replacement :: soFar) fuel rest
    else readValueText ends (c :: soFar) fuel rest

/-- an attribute's value, quoted or not; `cs` begins behind the equals sign and its blanks -/
def readAttributeValue (cs : List Char) : String × List Char :=
  let quotedBy (q : Char) (rest : List Char) :=
    let (value, after) := readValueText (· == q) [] rest.length rest
    (String.ofList value, after.drop 1)
  match cs with
  | '"' :: rest => quotedBy '"' rest
  | '\'' :: rest => quotedBy '\'' rest
  | _ =>
    let (value, after) := readValueText (fun c => isTagSpace c || c == '>') [] cs.length cs
    (String.ofList value, after)

/-- the attributes up to the end of the tag, the first of each name; nothing when the markup ends before the tag -/
def readAttributes (soFar : List Attribute) : Nat → List Char → Option (List Attribute × List Char)
  | 0, _ => none
  | fuel + 1, cs =>
    match cs.dropWhile fun c => isTagSpace c || c == '/' with
    | [] => none
    | '>' :: rest => some (soFar, rest)
    | named =>
      let (name, behind) := readAttributeName named
      let (value, after) := match behind.dropWhile isTagSpace with
        | '=' :: rest =>
          let (v, after) := readAttributeValue (rest.dropWhile isTagSpace)
          (some v, after)
        | _ => (none, behind)
      let attributes := if soFar.any (·.name == name) then soFar else soFar ++ [⟨name, value⟩]
      readAttributes attributes fuel after

/-- a comment behind `<!--`: it ends at `-->` or `--!>`, at once after `>` or `->`, or with the markup -/
def readComment (soFar : List Char) : Nat → List Char → List Char × List Char
  | 0, cs => (soFar.reverse, cs)
  | fuel + 1, cs =>
    match cs with
    | [] => (soFar.reverse, [])
    | '-' :: '-' :: '>' :: rest => (soFar.reverse, rest)
    | '-' :: '-' :: '!' :: '>' :: rest => (soFar.reverse, rest)
    | '\r' :: '\n' :: rest => readComment ('\n' :: soFar) fuel rest
    | c :: rest =>
      let c := if c = '\r' then '\n' else if c.toNat = 0 then replacement else c
      readComment (c :: soFar) fuel rest

/-- the comment that any other markup behind `<!`, `<?` or `</` makes, up to the next `>` -/
def readBogusComment (cs : List Char) : String × List Char :=
  let inside := cs.takeWhile (· != '>')
  (String.ofList (inside.map fun c => if c.toNat = 0 then replacement else c), (cs.dropWhile (· != '>')).drop 1)

/-- whether the characters behind `<!` are a document type -/
def isDoctype (cs : List Char) : Bool := String.ofList ((cs.take 7).map Char.toLower) == "doctype"

/-- the token behind a `<` that begins one, if it makes any, and the rest -/
def readMarkup (cs : List Char) : Option Token × List Char :=
  match cs with
  | '/' :: [] => (some (.text "</"), [])
  | '/' :: '>' :: rest => (none, rest)
  | '/' :: rest =>
    if rest.head?.any isLetter then
      let name := String.ofList ((rest.takeWhile (!endsTagName ·)).map nameChar)
      match readAttributes [] (rest.length + 1) (rest.dropWhile (!endsTagName ·)) with
      | some (_, after) => (some (.stop name), after)
      | none => (none, [])
    else
      let (content, after) := readBogusComment rest
      (some (.comment content), after)
  | '!' :: '-' :: '-' :: '>' :: rest => (some (.comment ""), rest)
  | '!' :: '-' :: '-' :: '-' :: '>' :: rest => (some (.comment ""), rest)
  | '!' :: '-' :: '-' :: rest =>
    let (content, after) := readComment [] (rest.length + 1) rest
    (some (.comment (String.ofList content)), after)
  | '!' :: rest =>
    if isDoctype rest then (none, (rest.dropWhile (· != '>')).drop 1)
    else
      let (content, after) := readBogusComment rest
      (some (.comment content), after)
  | '?' :: rest =>
    let (content, after) := readBogusComment ('?' :: rest)
    (some (.comment content), after)
  | _ =>
    let name := String.ofList ((cs.takeWhile (!endsTagName ·)).map nameChar)
    match readAttributes [] (cs.length + 1) (cs.dropWhile (!endsTagName ·)) with
    | some (attributes, after) => (some (.start name attributes), after)
    | none => (none, [])

/-- the tokens of markup; `fuel` bounds their number -/
def tokensFrom (mode : TextMode) : Nat → List Char → List Token
  | 0, _ => []
  | _ + 1, [] => []
  | fuel + 1, c :: rest =>
    if c = '<' ∧ mode.endsAt rest = true then
      match readMarkup rest with
      | (some (.start tag attributes), after) =>
        .start tag attributes :: tokensFrom (TextMode.ofTag tag) fuel after
      | (some token, after) => token :: tokensFrom .normal fuel after
      | (none, after) => tokensFrom .normal fuel after
    else
      let (content, after) := mode.read (c :: rest)
      .text (String.ofList content) :: tokensFrom mode fuel after

/-- the tokens of markup -/
def tokens (cs : List Char) : List Token := tokensFrom .normal (cs.length + 1) cs

end AmpArticle.Markup
