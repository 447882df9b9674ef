/-!
Blank characters and the blank borders of a text.
-/

namespace AmpArticle.Text

/-- white space: the control characters of tabs, line ends and separators, and the Unicode spaces -/
def isBlank (c : Char) : Bool :=
  let n := c.toNat
  (0x09 ≤ n && n ≤ 0x0d) || (0x1c ≤ n && n ≤ 0x20) || n == 0x85 || n == 0xa0 || n == 0x1680 ||
    (0x2000 ≤ n && n ≤ 0x200a) || n == 0x2028 || n == 0x2029 || n == 0x202f || n == 0x205f || n == 0x3000

/-- the characters without the last ones that satisfy `p` -/
def dropTrailing (p : Char → Bool) (cs : List Char) : List Char := (cs.reverse.dropWhile p).reverse

/-- the characters without blank ones at either end -/
def trimBlank (cs : List Char) : List Char := dropTrailing isBlank (cs.dropWhile isBlank)

/-- a text of blank characters only, or of none -/
def isBlankText (s : String) : Bool := s.toList.all isBlank

/-- the texts, with a separator between neighbours -/
def joinWith (separator : String) : List String → String
  | [] => ""
  | [s] => s
  | s :: rest => s ++ separator ++ joinWith separator rest

/-- `pieces` split off at every occurrence of the character -/
def splitOnChar (c : Char) : List Char → List (List Char)
  | [] => [[]]
  | d :: rest =>
    match splitOnChar c rest with
    | [] => [[d]]
    | piece :: pieces => if d = c then [] :: piece :: pieces else (d :: piece) :: pieces

/-- the rest after a leading `start`, if the characters begin with it -/
def dropStart? : List Char → List Char → Option (List Char)
  | [], cs => some cs
  | _ :: _, [] => none
  | a :: start, c :: cs => if a = c then dropStart? start cs else none

/-- every occurrence of `old`, found from left to right, replaced by `new`; `fuel` bounds the characters read -/
def replaceFrom (old new : List Char) : Nat → List Char → List Char
  | 0, cs => cs
  | _ + 1, [] => []
  | fuel + 1, c :: cs =>
    match dropStart? old (c :: cs) with
    | some rest => new ++ replaceFrom old new fuel rest
    | none => c :: replaceFrom old new fuel cs

/-- every occurrence of the non-empty text `old` replaced by `new` -/
def replaceAll (old new s : String) : String :=
  String.ofList (replaceFrom old.toList new.toList s.toList.length s.toList)

end AmpArticle.Text
