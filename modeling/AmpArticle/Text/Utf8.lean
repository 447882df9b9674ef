import AmpArticle.Fault

/-!
Texts from bytes in UTF-8. A malformed sequence is described by its place and by what is wrong with it; overlong forms
and surrogates are malformed. Line ends of a text file are read as one line feed each.
-/

namespace AmpArticle.Text

/-- a malformed sequence: its first byte, the place of it, how many bytes it covers and why it is malformed -/
structure Utf8Error where
  firstByte : UInt8
  start : Nat
  length : Nat
  reason : String

/-- the wording of a malformed sequence -/
def Utf8Error.message (e : Utf8Error) : String :=
  if e.length = 1 then
    "'utf-8' codec can't decode byte 0x" ++ String.ofList (hexDigits 2 e.firstByte.toNat) ++ " in position " ++
      toString e.start ++ ": " ++ e.reason
  else
    "'utf-8' codec can't decode bytes in position " ++ toString e.start ++ "-" ++ toString (e.start + e.length - 1) ++
      ": " ++ e.reason

/-- how many continuation bytes a first byte announces, with the range of the first of them -/
def announced? (b : Nat) : Option (Nat × Nat × Nat) :=
  if 0xc2 ≤ b ∧ b ≤ 0xdf then some (1, 0x80, 0xbf)
  else if b = 0xe0 then some (2, 0xa0, 0xbf)
  else if b = 0xed then some (2, 0x80, 0x9f)
  else if 0xe1 ≤ b ∧ b ≤ 0xef then some (2, 0x80, 0xbf)
  else if b = 0xf0 then some (3, 0x90, 0xbf)
  else if 0xf1 ≤ b ∧ b ≤ 0xf3 then some (3, 0x80, 0xbf)
  else if b = 0xf4 then some (3, 0x80, 0x8f)
  else none

/-- the continuation bytes at the front of `bytes`, at most `count`, the first of them within bounds -/
def continuation (count low high : Nat) : List UInt8 → List Nat
  | [] => []
  | b :: rest =>
    match count with
    | 0 => []
    | count + 1 =>
      if low ≤ b.toNat ∧ b.toNat ≤ high then b.toNat :: continuation count 0x80 0xbf rest else []

/-- the characters of bytes, added in reverse to `soFar`; `position` is the place of the first byte -/
def decodeFrom (soFar : List Char) (position : Nat) : Nat → List UInt8 → Except Utf8Error (List Char)
  | 0, _ => .ok soFar.reverse
  | _ + 1, [] => .ok soFar.reverse
  | fuel + 1, b :: rest =>
    if b.toNat < 0x80 then decodeFrom (Char.ofNat b.toNat :: soFar) (position + 1) fuel rest
    else
      match announced? b.toNat with
      | none => .error ⟨b, position, 1, "invalid start byte"⟩
      | some (count, low, high) =>
        let more := continuation count low high rest
        if more.length = count then
          let lead := b.toNat % (if count = 1 then 32 else if count = 2 then 16 else 8)
          let n := more.foldl (fun n m => n * 64 + m % 64) lead
          decodeFrom (Char.ofNat n :: soFar) (position + 1 + count) fuel (rest.drop count)
        else if (rest.drop more.length).isEmpty then
          .error ⟨b, position, 1 + more.length, "unexpected end of data"⟩
        else .error ⟨b, position, 1 + more.length, "invalid continuation byte"⟩

/-- the text of bytes -/
def decodeUtf8 (bytes : List UInt8) : Except Fault String :=
  match decodeFrom [] 0 bytes.length bytes with
  | .ok cs => .ok (String.ofList cs)
  | .error e => .error (.undecodable e.message)

/-- line ends of any kind as one line feed each -/
def unifyLineEnds : List Char → List Char
  | [] => []
  | '\r' :: '\n' :: rest => '\n' :: unifyLineEnds rest
  | '\r' :: rest => '\n' :: unifyLineEnds rest
  | c :: rest => c :: unifyLineEnds rest

/-- the text of a file -/
def ofFileBytes (bytes : List UInt8) : Except Fault String :=
  (decodeUtf8 bytes).map fun s => String.ofList (unifyLineEnds s.toList)

end AmpArticle.Text
