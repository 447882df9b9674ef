import AmpArticle.Media.Disk
import AmpArticle.Number.Reader
import AmpArticle.Record.Checked
import AmpArticle.Time.Reader

/-!
Fields of records from decoded JSON. Values of a neighbouring kind are taken where no information is lost: a whole
number may be written as a text, a switch as a word. Unions are tried in order of their members.
-/

namespace AmpArticle

/-- where a value comes from: decoded before, or decoded together with the check -/
inductive Origin where
  | value
  | document
  deriving DecidableEq, Inhabited

/-- how a value is checked and converted -/
abbrev Decoder (α : Type) := Origin → Json → Checked α

namespace Decoder

/-- a text -/
def text : Decoder String := fun _ v =>
  match v with
  | .text s => .good s
  | _ => .wrong .textType

/-- any value -/
def any : Decoder Json := fun _ v => .good v

/-- null, or what the decoder takes -/
def nullable {α : Type} (decode : Decoder α) : Decoder (Option α) := fun o v =>
  match v with
  | .null => .good none
  | v => some <$> decode o v

/-- a text without its leading zeros; one zero stays in front of a point and at the end -/
def dropZeros? : List Char → Option (List Char)
  | '0' :: rest =>
    let zeros := rest.takeWhile fun c => c = '0' ∨ c = '_'
    match rest.drop zeros.length with
    | [] => some [(zeros.getLast?).getD '0']
    | c :: more =>
      if '1' ≤ c ∧ c ≤ '9' then some (c :: more)
      else if c = '.' then some ((zeros.getLast?).getD '0' :: c :: more)
      else none
  | c :: rest => if ('1' ≤ c ∧ c ≤ '9') ∨ c = '-' then some (c :: rest) else none
  | [] => none

/-- a text without a fraction of zeros -/
def dropZeroFraction? (cs : List Char) : Option (List Char) :=
  let whole := cs.takeWhile (· ≠ '.')
  match cs.drop whole.length with
  | [] => some cs
  | _ :: fraction => if fraction.all (· = '0') then some whole else none

/-- whether two underscores stand side by side -/
def hasDoubleUnderscore : List Char → Bool
  | '_' :: '_' :: _ => true
  | _ :: rest => hasDoubleUnderscore rest
  | [] => false

/-- a text without its underscores, which must be inside and single -/
def dropInnerUnderscores (cs : List Char) : List Char :=
  if cs.head? = some '_' ∨ cs.getLast? = some '_' ∨ hasDoubleUnderscore cs then cs
  else cs.filter (· ≠ '_')

/-- a whole number in its plain form: no leading zeros and nothing but digits behind a minus -/
def plainInt? (cs : List Char) : Option Int :=
  let (negative, digits) := match cs with
    | '-' :: rest => (true, rest)
    | _ => (false, cs)
  if digits.isEmpty || !digits.all Char.isDigit || (digits.head? = some '0' && digits.length ≠ 1) then none
  else
    let n : Int := Json.digitsValue digits
    some (if negative then -n else n)

/-- a whole number that a text denotes: a plus, leading zeros, single underscores and a fraction of zeros are allowed -/
def intText (s : String) : Checked Int :=
  let cs := Text.trimBlank s.toList
  if Json.maxIntDigits < (cs.takeWhile fun c => c.isDigit ∨ c = '-').length then .wrong .intParsingSize
  else
    match plainInt? cs with
    | some n => .good n
    | none =>
      let unsigned := match cs with
        | '+' :: '-' :: _ => none
        | '+' :: rest => some rest
        | _ => some cs
      match (unsigned >>= dropZeros? >>= dropZeroFraction?).map dropInnerUnderscores >>= plainInt? with
      | some n => .good n
      | none => .wrong .intParsing

/-- a floating-point number that is whole and of usual size -/
def intOfReal (x : Double) : Checked Int :=
  match x.toRat? with
  | none => .wrong .finiteNumber
  | some q =>
    if q.den ≠ 1 then .wrong .intFromReal
    else if -(Nat.pow 2 63 : Int) < q.num ∧ q.num < Nat.pow 2 63 then .good q.num
    else .wrong .intParsingSize

/-- a whole number -/
def int : Decoder Int := fun _ v =>
  match v with
  | .int n => .good n
  | .bool b => .good (if b then 1 else 0)
  | .real x => intOfReal x
  | .text s => intText s
  | _ => .wrong .intType

/-- the words that switch on -/
def onWords : List String := ["1", "on", "t", "true", "y", "yes"]

/-- the words that switch off -/
def offWords : List String := ["0", "off", "f", "false", "n", "no"]

/-- a number as a switch -/
def switchOfInt (n : Int) : Checked Bool :=
  if n = 0 then .good false else if n = 1 then .good true else .wrong .boolParsing

/-- a switch -/
def switch : Decoder Bool := fun _ v =>
  match v with
  | .bool b => .good b
  | .text s =>
    let word := s.map Char.toLower
    if onWords.contains word then .good true
    else if offWords.contains word then .good false
    else .wrong .boolParsing
  | .int n => if n.natAbs < Nat.pow 2 63 then switchOfInt n else .wrong .boolType
  | .real x =>
    match intOfReal x with
    | .good n => switchOfInt n
    | .bad _ => .wrong .boolType
  | _ => .wrong .boolType

/-- a list of what the decoder takes -/
def list {α : Type} (decode : Decoder α) : Decoder (List α) := fun o v =>
  match v with
  | .list items => Checked.each (decode o) 0 items
  | _ => .wrong .listType

/-- an object with any content -/
def object : Decoder (List (String × Json)) := fun _ v =>
  match v with
  | .object entries => .good entries
  | _ => .wrong .objectType

/-- an object whose values the decoder takes -/
def table {α : Type} (decode : Decoder α) : Decoder (List (String × α)) := fun o v =>
  match v with
  | .object entries => Checked.eachEntry (decode o) entries
  | _ => .wrong .objectType

/-- a list of exactly two that the decoder takes -/
def pair {α : Type} (decode : Decoder α) : Decoder (α × α) := fun o v =>
  let missing (i : String) : Checked α := Checked.under i (.wrong .missing)
  match v with
  | .list [] => Prod.mk <$> missing "0" <*> missing "1"
  | .list [x] => Prod.mk <$> Checked.under "0" (decode o x) <*> missing "1"
  | .list [x, y] => Prod.mk <$> Checked.under "0" (decode o x) <*> Checked.under "1" (decode o y)
  | .list _ => .wrong .tooLong
  | _ => .wrong .tupleType

/-- a path of files in its plain spelling -/
def path : Decoder String := fun _ v =>
  match v with
  | .text s => .good (Disk.normalize s)
  | _ => .wrong .pathType

/-- one of a few texts -/
def choice {α : Type} (ofText? : String → Option α) : Decoder α := fun _ v =>
  match v with
  | .text s =>
    match ofText? s with
    | some x => .good x
    | none => .wrong .enumeration
  | _ => .wrong .enumeration

/-- a moment, or none when a number is out of range -/
def momentOr (problem : IssueKind) : Option Moment → Checked Moment
  | some m => .good m
  | none => .wrong problem

/-- a moment: a text, or a number of seconds -/
def moment : Decoder Moment := fun o v =>
  match v with
  | .text s => momentOr .dateFromDateParsing (Moment.ofText? s)
  | .int n =>
    if n.natAbs < Nat.pow 2 63 then momentOr .dateParsing (Moment.ofSeconds? n 0)
    else if o = .document then .wrong .dateType
    else
      match (Quantity.int n).toDouble with
      | .ok _ => .wrong .dateParsing
      | .error _ => .wrong .dateType
  | .real x => momentOr .dateParsing (Moment.ofReal? x)
  | _ => .wrong .dateType

/-- a text, or an object with any content -/
def textOrObject : Decoder Json := fun _ v =>
  match v with
  | .text _ | .object _ => .good v
  | _ => .bad [⟨["str"], .textType⟩, ⟨["dict[any,any]"], .objectType⟩]

/-- a list of texts, or a single text -/
def textsOrText : Decoder (List String ⊕ String) := fun o v =>
  match v with
  | .text s => .good (.inr s)
  | v =>
    match list text o v with
    | .good texts => .good (.inl texts)
    | .bad issues =>
      .bad ((issues.map fun i => { i with path := "list[str]" :: i.path }) ++ [⟨["str"], .textType⟩])

end Decoder

/-- the entries of a record -/
abbrev Entries := List (String × Json)

namespace Entries

/-- a field that must be there -/
def required {α : Type} (e : Entries) (o : Origin) (name : String) (decode : Decoder α) : Checked α :=
  Checked.under name (match lookup? name e with
    | some v => decode o v
    | none => .wrong .missing)

/-- a field that has a default -/
def optional {α : Type} (e : Entries) (o : Origin) (name : String) (decode : Decoder α) (default : α) : Checked α :=
  match lookup? name e with
  | some v => Checked.under name (decode o v)
  | none => .good default

/-- a field that has a default and two names, the first of which counts when both are given -/
def either {α : Type} (e : Entries) (o : Origin) (name other : String) (decode : Decoder α) (default : α) :
    Checked α :=
  if (lookup? name e).isSome then e.optional o name decode default else e.optional o other decode default

/-- the field that tells the kind of a record, when it is given -/
def kind (e : Entries) (expected : String) : Checked Unit :=
  match lookup? "type" e with
  | none => .good ()
  | some (.text s) => if s = expected then .good () else Checked.under "type" (.wrong .literalMismatch)
  | some _ => Checked.under "type" (.wrong .literalMismatch)

end Entries

namespace Decoder

/-- a record: an object whose fields are read -/
def record {α : Type} (fields : Entries → Origin → Checked α) : Decoder α := fun o v =>
  match v with
  | .object entries => fields entries o
  | _ => .wrong .recordType

/-- one of several kinds of records, told by the field `type` -/
def tagged {α : Type} (ofTag? : String → Option (Entries → Origin → Checked α)) : Decoder α := fun o v =>
  match v with
  | .object entries =>
    match lookup? "type" entries with
    | none => .wrong .tagNotFound
    | some (.text tag) =>
      match ofTag? tag with
      | some fields => Checked.under tag (fields entries o)
      | none => .wrong .tagInvalid
    | some _ => .wrong .tagInvalid
  | _ => .wrong (match o with
    | .value => .recordAttributesType
    | .document => .objectType)

end Decoder

end AmpArticle
