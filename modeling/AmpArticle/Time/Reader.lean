import AmpArticle.Number.Quantity
import AmpArticle.Time.Moment

/-!
Reading moments: a date and a time as texts have them, a date alone, or a number of seconds (or milliseconds, when it
is large) since 1970, in universal time.
-/

namespace AmpArticle.Moment

/-- the value of a decimal digit -/
def digit? (c : Char) : Option Nat := if '0' ≤ c ∧ c ≤ '9' then some (c.toNat - 0x30) else none

/-- a number of exactly `count` digits, and what follows -/
def digits? : Nat → Nat → List Char → Option (Nat × List Char)
  | 0, soFar, cs => some (soFar, cs)
  | _ + 1, _, [] => none
  | count + 1, soFar, c :: rest => do digits? count (soFar * 10 + (← digit? c)) rest

/-- the character that must come next -/
def expect? (allowed : List Char) : List Char → Option (List Char)
  | [] => none
  | c :: rest => if allowed.contains c then some rest else none

/-- year, month and day, and what follows; the first year is the year one -/
def date? (cs : List Char) : Option ((Nat × Nat × Nat) × List Char) := do
  let (year, cs) ← digits? 4 0 cs
  let cs ← expect? ['-'] cs
  let (month, cs) ← digits? 2 0 cs
  let cs ← expect? ['-'] cs
  let (day, cs) ← digits? 2 0 cs
  if 1 ≤ year ∧ 1 ≤ day ∧ day ≤ Calendar.daysInMonth year month then some ((year, month, day), cs) else none

/-- a fraction of a second as microseconds: digits beyond the sixth are dropped -/
def microseconds (digits : List Char) : Nat :=
  let six := digits.take 6
  six.foldl (fun n c => n * 10 + (c.toNat - 0x30)) 0 * Nat.pow 10 (6 - six.length)

/-- seconds and microseconds where a text has them, and what follows -/
def seconds? (cs : List Char) : Option ((Nat × Nat) × List Char) :=
  match cs with
  | ':' :: rest => do
    let (second, rest) ← digits? 2 0 rest
    match rest with
    | c :: more =>
      if c = '.' ∨ c = ',' then
        let fraction := more.takeWhile fun c => (digit? c).isSome
        if fraction.isEmpty then none else some ((second, microseconds fraction), more.drop fraction.length)
      else some ((second, 0), rest)
    | [] => some ((second, 0), [])
  | _ => some ((0, 0), cs)

/-- an offset from universal time, or none at the end of the text -/
def offset? (cs : List Char) : Option (Option Int) :=
  match cs with
  | [] => some none
  | c :: rest =>
    if c = 'Z' ∨ c = 'z' then (if rest.isEmpty then some (some 0) else none)
    else do
      let sign : Int ← if c = '+' then some 1 else if c = '-' ∨ c.toNat = 0x2212 then some (-1) else none
      let (hours, rest) ← digits? 2 0 rest
      let rest := match rest with
        | ':' :: more => more
        | _ => rest
      let (minutes, rest) ← digits? 2 0 rest
      if rest.isEmpty ∧ minutes < 60 ∧ hours < 24 then some (some (sign * (hours * 3600 + minutes * 60 : Nat)))
      else none

/-- a date with a time of day -/
def dateAndTime? (cs : List Char) : Option Moment := do
  let ((year, month, day), cs) ← date? cs
  let cs ← expect? ['T', 't', ' ', '_'] cs
  let (hour, cs) ← digits? 2 0 cs
  let cs ← expect? [':'] cs
  let (minute, cs) ← digits? 2 0 cs
  let ((second, microsecond), cs) ← seconds? cs
  let offset ← offset? cs
  if hour < 24 ∧ minute < 60 ∧ second < 60 then some ⟨year, month, day, hour, minute, second, microsecond, offset⟩
  else none

/-- a date alone, at midnight -/
def dateOnly? (cs : List Char) : Option Moment := do
  let ((year, month, day), cs) ← date? cs
  if cs.isEmpty then some ⟨year, month, day, 0, 0, 0, 0, none⟩ else none

/-- the greatest number that counts seconds; a greater one counts milliseconds -/
def greatestSeconds : Int := 20000000000

/-- the first second of the year one -/
def firstSecond : Int := -62135596800

/-- the last second of 9999 -/
def lastSecond : Int := 253402300799

/-- the moment a number of seconds and microseconds after the first of January 1970, in universal time -/
def ofSeconds? (seconds : Int) (micros : Nat) : Option Moment :=
  let (seconds, micros) :=
    if seconds.natAbs ≤ greatestSeconds.toNat then (seconds, micros)
    else (seconds.fdiv 1000, micros + (seconds.fmod 1000).toNat * 1000)
  let seconds := seconds + (micros / 1000000 : Nat)
  if seconds < firstSecond ∨ lastSecond < seconds then none
  else
    let inDay := (seconds.fmod 86400).toNat
    let (year, month, day) := Calendar.ofDayNumber ((Calendar.epochDay : Int) + seconds.fdiv 86400).toNat
    some ⟨year, month, day, inDay / 3600, inDay / 60 % 60, inDay % 60, micros % 1000000, some 0⟩

/-- a million -/
def million : Double := Double.ofInt 1000000

/-- a positive number rounded to a whole one, a half going up -/
def roundHalfUp (x : Double) : Nat := (x.toRat + 1 / 2).floor.toNat

/-- the moment of a floating-point number of seconds -/
def ofReal? (x : Double) : Option Moment :=
  match x with
  | .finite .. =>
    let whole := x.toRat.floor
    let fraction := Double.nearest (x.toRat - (truncate x.toRat : Rat)) false
    let fraction := if fraction.isNegative then fraction.neg else fraction
    ofSeconds? whole (roundHalfUp (fraction.mul million))
  | _ => none

/-- the moment of a number of seconds written with a fraction; a large one counts milliseconds -/
def ofRealText? (x : Double) : Option Moment :=
  match x with
  | .finite .. =>
    let size := if x.isNegative then x.neg else x
    let inSeconds := if (greatestSeconds : Rat) < size.toRat then x.div (Double.ofInt 1000) else x
    let whole := inSeconds.toRat.floor
    ofSeconds? whole (roundHalfUp ((inSeconds.sub (Double.ofInt whole)).mul million))
  | _ => none

/-- a number of seconds, with or without a fraction -/
def numberText? (cs : List Char) : Option Moment := do
  let (negative, cs) := match cs with
    | '-' :: rest => (true, rest)
    | '+' :: rest => (false, rest)
    | _ => (false, cs)
  let isDigit (c : Char) : Bool := (digit? c).isSome
  let value (digits : List Char) : Nat := digits.foldl (fun n c => n * 10 + (c.toNat - 0x30)) 0
  let whole := cs.takeWhile isDigit
  if whole.isEmpty then none
  else
    match cs.drop whole.length with
    | [] =>
      let n : Int := value whole
      ofSeconds? (if negative then -n else n) 0
    | '.' :: fraction =>
      if fraction.all isDigit then
        ofRealText? (Double.ofDecimal negative (value (whole ++ fraction)) (-(fraction.length : Int)))
      else none
    | _ => none

/-- the moment that a text denotes -/
def ofText? (s : String) : Option Moment :=
  let cs := s.toList
  dateAndTime? cs <|> numberText? cs <|> dateOnly? cs

end AmpArticle.Moment
