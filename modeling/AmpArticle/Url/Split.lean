import AmpArticle.Fault

/-!
Addresses taken apart: scheme, authority, path, query and fragment. Leading control characters and spaces are skipped,
tabs and line ends are dropped everywhere, and a host in brackets must be a version six address.
-/

namespace AmpArticle.Url

/-- the parts of an address; the path still holds its parameters -/
structure Parts where
  scheme : String
  authority : String
  path : String
  query : String
  fragment : String
  deriving DecidableEq, Inhabited

/-- letters, digits and signs that a scheme may hold -/
def isSchemeChar (c : Char) : Bool := c.isAlphanum || c == '+' || c == '-' || c == '.'

/-- a scheme in front of the first colon, in lower case, and what follows it -/
def splitScheme (cs : List Char) : List Char × List Char :=
  let front := cs.takeWhile (· != ':')
  match cs.drop front.length with
  | ':' :: rest =>
    if front.head?.any Char.isAlpha && front.all isSchemeChar then (front.map Char.toLower, rest) else ([], cs)
  | _ => ([], cs)

/-- four decimal numbers up to 255 without leading zeros, joined by points -/
def isVersionFour (cs : List Char) : Bool :=
  let octets := Text.splitOnChar '.' cs
  octets.length == 4 && octets.all fun o =>
    !o.isEmpty && o.all Char.isDigit && o.length ≤ 3 && !(1 < o.length && o.head? == some '0') &&
      Json.digitsValue o ≤ 255

/-- one to four hexadecimal digits -/
def isGroup (cs : List Char) : Bool := !cs.isEmpty && cs.length ≤ 4 && cs.all fun c => (Json.hexValue? c).isSome

/-- positions of empty groups other than the first and the last -/
def innerGaps (groups : List (List Char)) : List Nat :=
  (List.range groups.length).filter fun i =>
    0 < i && i + 1 < groups.length && (groups.getD i []).isEmpty

/-- eight groups of hexadecimal digits, of which one run may be left out; the last two may be a version four address -/
def isVersionSix (cs : List Char) : Bool :=
  let address := cs.takeWhile (· != '%')
  let zone := cs.drop address.length
  let zoneFits := match zone with
    | [] => true
    | _ :: name => !name.isEmpty && !name.contains '%'
  let raw := Text.splitOnChar ':' address
  let tail := raw.getLastD []
  let fourFits := !tail.contains '.' || isVersionFour tail
  let groups := if tail.contains '.' then raw.dropLast ++ [['0'], ['0']] else raw
  let headEmpty := (groups.headD []).isEmpty
  let lastEmpty := (groups.getLastD []).isEmpty
  let allGroups (gs : List (List Char)) := gs.all isGroup
  zoneFits && !cs.contains '/' && 3 ≤ raw.length && fourFits && groups.length ≤ 9 &&
    (match innerGaps groups with
      | [] => groups.length == 8 && allGroups groups
      | [gap] =>
        let high := gap - (if headEmpty then 1 else 0)
        let low := groups.length - gap - 1 - (if lastEmpty then 1 else 0)
        (!headEmpty || high == 0) && (!lastEmpty || low == 0) && high + low < 8 &&
          allGroups ((groups.take gap).filter (!·.isEmpty)) && allGroups ((groups.drop (gap + 1)).filter (!·.isEmpty))
      | _ => false)

/-- a version behind `v`, a point, and anything -/
def isFutureVersion (cs : List Char) : Bool :=
  match cs with
  | 'v' :: rest =>
    let digits := rest.takeWhile fun c => (Json.hexValue? c).isSome
    !digits.isEmpty &&
      (match rest.drop digits.length with
        | '.' :: more => !more.isEmpty && !more.contains '\n'
        | _ => false)
  | _ => false

/-- characters that look like a sign which separates the parts of an address -/
def lookalikes : List Nat :=
  [0x2047, 0x2048, 0x2049, 0x2100, 0x2101, 0x2105, 0x2106, 0x2a74, 0xfe13, 0xfe16, 0xfe55, 0xfe56, 0xfe5f, 0xfe6b,
    0xff03, 0xff0f, 0xff1a, 0xff1f, 0xff20]

/-- the text between the first bracket and the next closing one -/
def bracketed (authority : List Char) : List Char :=
  ((authority.dropWhile (· != '[')).drop 1).takeWhile (· != ']')

/-- refuses an authority whose host cannot be one -/
def checkAuthority (authority : List Char) : Except Fault Unit :=
  let opened := authority.contains '['
  let closed := authority.contains ']'
  if opened != closed then .error .addressBrackets
  else if opened then
    let host := bracketed authority
    if host.head? == some 'v' then (if isFutureVersion host then .ok () else .error .addressFuture)
    else if isVersionFour host then .error .addressVersion
    else if isVersionSix host then .ok ()
    else .error (.addressUnknown (String.ofList host))
  else .ok ()

/-- an address without the characters that are dropped from it -/
def clean (s : String) : List Char :=
  (s.toList.dropWhile (·.toNat ≤ 0x20)).filter fun c => c != '\t' && c != '\r' && c != '\n'

/-- whether a character may stand in an authority: none of the signs that the parts behind it begin with -/
def isAuthorityChar (c : Char) : Bool := c != '/' && c != '?' && c != '#'

/-- the authority behind two slashes, if there are any, and what follows it -/
def takeAuthority (cs : List Char) : List Char × List Char :=
  match cs with
  | '/' :: '/' :: rest => (rest.takeWhile isAuthorityChar, rest.dropWhile isAuthorityChar)
  | _ => ([], cs)

/-- the parts of an address -/
def split (s : String) : Except Fault Parts := do
  let (scheme, rest) := splitScheme (clean s)
  let (authority, rest) := takeAuthority rest
  checkAuthority authority
  let fragment := (rest.dropWhile (· != '#')).drop 1
  let rest := rest.takeWhile (· != '#')
  let query := (rest.dropWhile (· != '?')).drop 1
  let path := rest.takeWhile (· != '?')
  if authority.any fun c => lookalikes.contains c.toNat then
    throw (.addressLookalike (String.ofList authority))
  pure ⟨String.ofList scheme, String.ofList authority, String.ofList path, String.ofList query, String.ofList fragment⟩

/-- schemes whose last path segment may carry parameters behind a semicolon -/
def schemesWithParameters : List String :=
  ["", "ftp", "hdl", "prospero", "http", "imap", "https", "shttp", "rtsp", "rtsps", "rtspu", "sip", "sips", "mms",
    "sftp", "tel"]

/-- a path without the parameters of its last segment, and the parameters -/
def splitParameters (path : List Char) : List Char × List Char :=
  let last := (path.reverse.takeWhile (· != '/')).reverse
  let front := path.take (path.length - last.length)
  (front ++ last.takeWhile (· != ';'), (last.dropWhile (· != ';')).drop 1)

/-- the path of an address, without parameters where its scheme has them -/
def Parts.plainPath (p : Parts) : List Char :=
  if schemesWithParameters.contains p.scheme then (splitParameters p.path.toList).1 else p.path.toList

/-- the segments of a path, empty ones and single points left out -/
def segments (path : List Char) : List (List Char) :=
  (Text.splitOnChar '/' path).filter fun s => !s.isEmpty && s != ['.']

/-- the name of the file that an address points to: the last segment of its path, empty when it has none -/
def fileName (url : String) : Except Fault String := do
  let parts ← split url
  return String.ofList ((segments parts.plainPath).getLastD [])

end AmpArticle.Url
