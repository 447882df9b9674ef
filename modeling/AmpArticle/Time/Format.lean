import AmpArticle.Time.Moment

/-!
Moments written by a pattern. A percent sign begins a field: flags and a least width may stand before its letter. The
names of months and weekdays are English. A pattern ends at its first null character.
-/

namespace AmpArticle.Moment

/-- the names of the weekdays, Sunday first -/
def weekdayNames : List String := ["Sunday", "Monday", "Tuesday", "Wednesday", "Thursday", "Friday", "Saturday"]

/-- the names of the months -/
def monthNames : List String :=
  ["January", "February", "March", "April", "May", "June", "July", "August", "September", "October", "November",
    "December"]

/-- the name of the weekday -/
def weekdayName (m : Moment) : String := weekdayNames.getD m.weekday ""

/-- the name of the month -/
def monthName (m : Moment) : String := monthNames.getD (m.month - 1) ""

/-- the first three letters of a name -/
def short (name : String) : String := String.ofList (name.toList.take 3)

/-- the hour on a clock of twelve hours -/
def hourOfTwelve (m : Moment) : Nat := if m.hour % 12 = 0 then 12 else m.hour % 12

/-- `AM` or `PM` -/
def halfOfDay (m : Moment) : String := if 12 ≤ m.hour then "PM" else "AM"

/-- the number of the week, weeks beginning on Sunday and the first one with the year's first Sunday -/
def weekFromSunday (m : Moment) : Nat := (m.dayOfYear - 1 + 7 - m.weekday) / 7

/-- the number of the week, weeks beginning on Monday and the first one with the year's first Monday -/
def weekFromMonday (m : Moment) : Nat := (m.dayOfYear - 1 + 7 - (m.weekday + 6) % 7) / 7

/-- the year and number of the week by the rule that a week belongs to the year of its Thursday -/
def weekOfThursday (m : Moment) : Nat × Nat :=
  let thursday := m.dayNumber + 3 - (m.weekday + 6) % 7
  let year := (Calendar.ofDayNumber thursday).1
  (year, (thursday - Calendar.daysBeforeYear year) / 7 + 1)

/-- the number of seconds since the first of January 1970, the clock taken as universal time -/
def epochSeconds (m : Moment) : Int :=
  ((m.dayNumber : Int) - (Calendar.epochDay : Int)) * 86400 + (m.hour * 3600 + m.minute * 60 + m.second : Nat)

/-- what may stand between the percent sign and the letter of a field -/
structure FieldOptions where
  /-- the character that fills up a number, in place of the usual one: `-` for none -/
  fill : Option Char
  upper : Bool
  swapCase : Bool
  width : Option Nat
  /-- `E` or `O` -/
  variant : Option Char
  deriving Inhabited

/-- the flags of a field, and what follows -/
def readFlags (o : FieldOptions) : List Char → FieldOptions × List Char
  | [] => (o, [])
  | c :: rest =>
    if c = '_' ∨ c = '-' ∨ c = '0' then readFlags { o with fill := some c } rest
    else if c = '^' then readFlags { o with upper := true } rest
    else if c = '#' then readFlags { o with swapCase := true } rest
    else (o, c :: rest)

/-- flags, width and variant of a field, and what follows -/
def readOptions (cs : List Char) : FieldOptions × List Char :=
  let (o, cs) := readFlags ⟨none, false, false, none, none⟩ cs
  let digits := cs.takeWhile Char.isDigit
  let o := if digits.isEmpty then o
    else { o with width := some (digits.foldl (fun n c => n * 10 + (c.toNat - 0x30)) 0) }
  match cs.drop digits.length with
  | c :: rest => if c = 'E' ∨ c = 'O' then ({ o with variant := some c }, rest) else (o, c :: rest)
  | [] => (o, [])

/-- a number in a field: filled up to its own width, or to the one asked for -/
def numberField (o : FieldOptions) (usualFill : Char) (digits : Nat) (n : Int) : String :=
  let fill := o.fill.getD usualFill
  let body := toString n.natAbs
  let sign := if n < 0 then "-" else ""
  let asked := o.width.getD 0
  let width := if fill = '-' then asked else max asked digits
  let gap := width - (sign ++ body).length
  if fill = '0' then sign ++ String.ofList (List.replicate gap '0') ++ body
  else String.ofList (List.replicate gap ' ') ++ sign ++ body

/-- a name in a field: turned to capitals or filled up where that is asked for -/
def textField (o : FieldOptions) (s : String) : String :=
  let s := if o.upper then s.map Char.toUpper else s
  let gap := o.width.getD 0 - s.length
  String.ofList (List.replicate gap (if o.fill = some '0' then '0' else ' ')) ++ s

/-- capitals for a name whose case is to be swapped -/
def swapToUpper (o : FieldOptions) : FieldOptions := if o.swapCase then { o with upper := true } else o

/-- a simple field of the moment: a number or a name -/
def simpleField? (m : Moment) (o : FieldOptions) (letter : Char) : Option String :=
  let number (usualFill : Char) (digits : Nat) (n : Nat) : Option String :=
    some (numberField o usualFill digits n)
  match letter with
  | '%' => some (textField o "%")
  | 'n' => some (textField o "\n")
  | 't' => some (textField o "\t")
  | 'a' => some (textField (swapToUpper o) (short m.weekdayName))
  | 'A' => some (textField (swapToUpper o) m.weekdayName)
  | 'b' | 'h' => some (textField (swapToUpper o) (short m.monthName))
  | 'B' => some (textField (swapToUpper o) m.monthName)
  | 'p' =>
    let o' := if o.swapCase then { o with upper := false } else o
    some (textField o' (if o.swapCase then m.halfOfDay.map Char.toLower else m.halfOfDay))
  | 'P' => some (textField { o with upper := false } (m.halfOfDay.map Char.toLower))
  | 'C' => number '0' 1 (m.year / 100)
  | 'd' => number '0' 2 m.day
  | 'e' => number '_' 2 m.day
  | 'H' => number '0' 2 m.hour
  | 'I' => number '0' 2 m.hourOfTwelve
  | 'j' => number '0' 3 m.dayOfYear
  | 'k' => number '_' 2 m.hour
  | 'l' => number '_' 2 m.hourOfTwelve
  | 'm' => number '0' 2 m.month
  | 'M' => number '0' 2 m.minute
  | 'S' => number '0' 2 m.second
  | 'u' => number '0' 1 ((m.weekday + 6) % 7 + 1)
  | 'w' => number '0' 1 m.weekday
  | 'U' => number '0' 2 m.weekFromSunday
  | 'W' => number '0' 2 m.weekFromMonday
  | 'V' => number '0' 2 m.weekOfThursday.2
  | 'g' => number '0' 2 (m.weekOfThursday.1 % 100)
  | 'G' => number '0' 1 m.weekOfThursday.1
  | 'y' => number '0' 2 (m.year % 100)
  | 'Y' => number '0' 1 m.year
  | 's' => some (textField o (toString m.epochSeconds))
  | 'z' => some ""
  | 'Z' => some (textField o "")
  | _ => none

/-- the pattern that a compound field stands for -/
def compound? (letter : Char) : Option String :=
  match letter with
  | 'c' => some "%a %b %e %H:%M:%S %Y"
  | 'x' | 'D' => some "%m/%d/%y"
  | 'X' | 'T' => some "%H:%M:%S"
  | 'F' => some "%Y-%m-%d"
  | 'R' => some "%H:%M"
  | 'r' => some "%I:%M:%S %p"
  | _ => none

/-- a moment by a pattern that has no compound fields -/
def simplePattern (m : Moment) : Nat → List Char → String
  | 0, _ => ""
  | _ + 1, [] => ""
  | fuel + 1, '%' :: letter :: rest =>
    (m.simpleField? ⟨none, false, false, none, none⟩ letter).getD "" ++ m.simplePattern fuel rest
  | fuel + 1, c :: rest => c.toString ++ m.simplePattern fuel rest

/-- the letters of fields that have no variants: one that is asked for is passed over -/
def withoutVariants : List Char := ['%', 'n', 'p', 'P', 'r', 'R', 's', 't', 'T', 'u', 'z', 'Z']

/-- whether a variant may stand before a letter -/
def allowsVariant (variant letter : Char) : Bool :=
  withoutVariants.contains letter ||
    (if variant = 'E' then ['c', 'C', 'x', 'X', 'y', 'Y']
      else ['b', 'B', 'C', 'd', 'e', 'g', 'G', 'h', 'H', 'I', 'j', 'k', 'l', 'm', 'M', 'S', 'U', 'V', 'w', 'W',
        'y']).contains letter

/-- the field behind a percent sign, and the rest of the pattern; what is no field stands for itself -/
def field (m : Moment) (cs : List Char) : String × List Char :=
  let (o, afterOptions) := readOptions cs
  let asWritten (rest : List Char) : String × List Char :=
    (textField o (String.ofList ('%' :: cs.take (cs.length - rest.length))), rest)
  match afterOptions with
  | [] => asWritten []
  | letter :: rest =>
    if (o.variant.map fun v => allowsVariant v letter) == some false then asWritten rest
    else
      match m.simpleField? o letter, compound? letter with
      | some s, _ => (s, rest)
      | none, some pattern => (textField o (m.simplePattern pattern.length pattern.toList), rest)
      | none, none => asWritten rest

/-- what a pattern's zone and fraction fields stand for; they allow no flags -/
def ownField? (m : Moment) (letter : Char) : Option String :=
  match letter with
  | 'z' => some ((m.offset.map (offsetText "")).getD "")
  | 'Z' => some m.zoneName
  | 'f' => some (padded 6 m.microsecond)
  | _ => none

/-- a pattern with its zone and fraction fields filled in: percent signs are taken with the character behind them -/
def fillOwnFields (m : Moment) : List Char → List Char
  | '%' :: letter :: rest =>
    match m.ownField? letter with
    | some s => s.toList ++ m.fillOwnFields rest
    | none => '%' :: letter :: m.fillOwnFields rest
  | c :: rest => c :: m.fillOwnFields rest
  | [] => []

/-- a moment by a pattern whose zone and fraction fields are filled in -/
def formatFrom (m : Moment) : Nat → List Char → String
  | 0, _ => ""
  | _ + 1, [] => ""
  | fuel + 1, '%' :: rest =>
    let (s, rest) := m.field rest
    s ++ m.formatFrom fuel rest
  | fuel + 1, c :: rest => c.toString ++ m.formatFrom fuel rest

/-- a moment by a pattern, which ends at its first null character -/
def format (m : Moment) (pattern : String) : String :=
  let cs := m.fillOwnFields (pattern.toList.takeWhile fun c => c.toNat ≠ 0)
  m.formatFrom (cs.length + 1) cs

end AmpArticle.Moment
