/-!
Pixel dimensions read from the bytes of an image. The kind of image is known by its first bytes; each kind says its
size in a header of its own, and bytes that break off before the picture can be drawn are no image.
-/

namespace AmpArticle.Media

/-- width and height in pixels -/
structure Size where
  width : Int
  height : Int
  deriving DecidableEq, Inhabited

namespace Image

/-- a byte at a place -/
def byteAt? (bytes : List UInt8) (i : Nat) : Option Nat := (bytes[i]?).map UInt8.toNat

/-- a number of `count` bytes at a place, the most significant first -/
def bigEndian? (bytes : List UInt8) (i : Nat) : Nat → Option Nat
  | 0 => some 0
  | count + 1 => do
    let high ← bigEndian? bytes i count
    let b ← byteAt? bytes (i + count)
    some (high * 256 + b)

/-- a number of `count` bytes at a place, the least significant first -/
def littleEndian? (bytes : List UInt8) (i : Nat) : Nat → Option Nat
  | 0 => some 0
  | count + 1 => do
    let b ← byteAt? bytes i
    let rest ← littleEndian? bytes (i + 1) count
    some (b + 256 * rest)

/-- whether bytes begin with the given ones -/
def startsWith (bytes : List UInt8) (start : List Nat) : Bool := (bytes.take start.length).map UInt8.toNat == start

/-- a size of at least one pixel each way -/
def positive? (width height : Nat) : Option Size :=
  if width = 0 ∨ height = 0 then none else some ⟨width, height⟩

/-- whether the chunks of a portable network graphic, from the place of one on, are complete up to the one that ends it
or to the end of the bytes, and hold data -/
def chunksComplete (bytes : List UInt8) (size : Nat) (sawData : Bool) : Nat → Nat → Bool
  | 0, _ => false
  | fuel + 1, at_ =>
    if size ≤ at_ + 8 then sawData
    else
      match bigEndian? bytes at_ 4, bigEndian? bytes (at_ + 4) 4 with
      | some length, some kind =>
        if size < at_ + 12 + length then false
        else if kind = 0x49454e44 then sawData
        else chunksComplete bytes size (sawData || kind == 0x49444154) fuel (at_ + 12 + length)
      | _, _ => false

/-- a portable network graphic: its header is the first chunk -/
def ofPng? (bytes : List UInt8) : Option Size := do
  let kind ← bigEndian? bytes 12 4
  let width ← bigEndian? bytes 16 4
  let height ← bigEndian? bytes 20 4
  if kind = 0x49484452 ∧ chunksComplete bytes bytes.length false bytes.length 8 = true then positive? width height
  else none

/-- the size in the frame header of a JPEG image, found by following its segments up to the first scan; what is no
segment is skipped -/
def jpegFrame? (bytes : List UInt8) (size : Nat) (frame : Option Size) : Nat → Nat → Option Size
  | 0, _ => none
  | fuel + 1, at_ => do
    let lead ← byteAt? bytes at_
    let marker ← byteAt? bytes (at_ + 1)
    if lead ≠ 0xff ∨ marker = 0xff then jpegFrame? bytes size frame fuel (at_ + 1)
    else if marker = 0 ∨ marker = 0xd8 ∨ marker = 0x01 ∨ (0xd0 ≤ marker ∧ marker ≤ 0xd7) then
      jpegFrame? bytes size frame fuel (at_ + 2)
    else if marker = 0xd9 then none
    else do
      let length ← bigEndian? bytes (at_ + 2) 2
      if size < at_ + 2 + length then none
      else if marker = 0xda then frame
      else if 0xc0 ≤ marker ∧ marker ≤ 0xcf ∧ marker ≠ 0xc4 ∧ marker ≠ 0xc8 ∧ marker ≠ 0xcc then do
        let height ← bigEndian? bytes (at_ + 5) 2
        let width ← bigEndian? bytes (at_ + 7) 2
        let found ← positive? width height
        jpegFrame? bytes size (some found) fuel (at_ + 2 + length)
      else jpegFrame? bytes size frame fuel (at_ + 2 + length)

/-- a Windows bitmap; rows may be counted from the top, by a negative height -/
def ofBitmap? (bytes : List UInt8) : Option Size := do
  let header ← littleEndian? bytes 14 4
  if header = 12 then
    let width ← littleEndian? bytes 18 2
    let height ← littleEndian? bytes 20 2
    positive? width height
  else if header < 40 ∨ bytes.length < 14 + header then none
  else
    let width ← littleEndian? bytes 18 4
    let height ← littleEndian? bytes 22 4
    let height := if Nat.pow 2 31 ≤ height then Nat.pow 2 32 - height else height
    if Nat.pow 2 31 ≤ width then none else positive? width height

/-- what follows a row of data blocks, each with its length in front, the last one empty -/
def afterBlocks? : Nat → List UInt8 → Option (List UInt8)
  | 0, _ => none
  | _ + 1, [] => none
  | fuel + 1, length :: rest =>
    if length = 0 then some rest
    else if rest.length < length.toNat then none
    else afterBlocks? fuel (rest.drop length.toNat)

/-- the bytes that a table of colours takes, by the flags in front of it -/
def colourBytes (flags : UInt8) : Nat := if 0x80 ≤ flags then 3 * Nat.pow 2 (flags.toNat % 8 + 1) else 0

/-- whether the parts of a graphics interchange image, its pictures and the notes on them, are complete up to its
trailer -/
def partsComplete : Nat → List UInt8 → Bool
  | 0, _ => false
  | _ + 1, [] => false
  | fuel + 1, kind :: rest =>
    if kind = 0x3b then true
    else
      let inside :=
        if kind = 0x21 then some (rest.drop 1)
        else if kind = 0x2c then (rest[8]?).map fun flags => rest.drop (9 + colourBytes flags + 1)
        else none
      match inside.bind (afterBlocks? rest.length) with
      | some next => partsComplete fuel next
      | none => false

/-- a graphics interchange image: its screen, a table of colours and its parts -/
def ofGif? (bytes : List UInt8) : Option Size := do
  let width ← littleEndian? bytes 6 2
  let height ← littleEndian? bytes 8 2
  let flags ← bytes[10]?
  if partsComplete bytes.length (bytes.drop (13 + colourBytes flags)) = true then positive? width height else none

/-- blanks between the numbers of a portable anymap -/
def isMapBlank (b : UInt8) : Bool := b == 0x20 || (0x09 ≤ b && b ≤ 0x0d)

/-- a decimal number of a portable anymap, behind blanks and comments, and the bytes after it -/
def mapNumber? : Nat → List UInt8 → Option (Nat × List UInt8)
  | 0, _ => none
  | fuel + 1, bytes =>
    match bytes.dropWhile isMapBlank with
    | 0x23 :: rest => mapNumber? fuel (rest.dropWhile (· != 0x0a))
    | rest =>
      let digits := rest.takeWhile fun b => 0x30 ≤ b && b ≤ 0x39
      if digits.isEmpty then none
      else some (digits.foldl (fun n b => n * 10 + (b.toNat - 0x30)) 0, rest.drop digits.length)

/-- whether `count` numbers follow -/
def hasNumbers : Nat → List UInt8 → Bool
  | 0, _ => true
  | count + 1, bytes =>
    match mapNumber? (bytes.length + 1) bytes with
    | some (_, rest) => hasNumbers count rest
    | none => false

/-- a portable anymap of kind one to six: its header is text, and its samples, as text or as bytes, must all be there -/
def ofAnymap? (kind : Nat) (bytes : List UInt8) : Option Size := do
  let (width, rest) ← mapNumber? bytes.length (bytes.drop 2)
  let (height, rest) ← mapNumber? rest.length rest
  let (limit, rest) ← if kind = 1 ∨ kind = 4 then some (1, rest) else mapNumber? rest.length rest
  let samples := width * height * (if kind = 3 ∨ kind = 6 then 3 else 1)
  let complete :=
    match kind with
    | 1 => decide (samples ≤ (rest.filter fun b => b == 0x30 || b == 0x31).length)
    | 2 | 3 => decide (samples ≤ rest.length) && hasNumbers samples rest
    | 4 => decide ((width + 7) / 8 * height ≤ (rest.drop 1).length)
    | _ => decide (samples * (if limit < 256 then 1 else 2) ≤ (rest.drop 1).length)
  if complete then positive? width height else none

/-- the size of an image, if the bytes are one -/
def size? (bytes : List UInt8) : Option Size :=
  if startsWith bytes [0x89, 0x50, 0x4e, 0x47, 0x0d, 0x0a, 0x1a, 0x0a] then ofPng? bytes
  else if startsWith bytes [0xff, 0xd8] then jpegFrame? bytes bytes.length none bytes.length 0
  else if startsWith bytes [0x42, 0x4d] then ofBitmap? bytes
  else if startsWith bytes [0x47, 0x49, 0x46] then ofGif? bytes
  else
    match byteAt? bytes 0, byteAt? bytes 1 with
    | some 0x50, some kind => if 0x31 ≤ kind ∧ kind ≤ 0x36 then ofAnymap? (kind - 0x30) bytes else none
    | _, _ => none

end Image

end AmpArticle.Media
