import AmpArticle.Url.Split

/-!
The address that a download asks for. Characters that may not stand in an address are percent-encoded, scheme and host
are written in lower case, the usual port of a scheme is left out and points in the path are resolved. An address
without scheme and host asks for its path on a nameless host.
-/

namespace AmpArticle.Url

/-- a normalised address; parts that are absent differ from empty ones -/
structure Target where
  scheme : String
  user : String
  host : String
  port : Option Nat
  path : String
  query : Option String
  fragment : Option String
  deriving DecidableEq, Inhabited

namespace Target

/-- printable ASCII other than the given signs -/
def isPlain (signs : List Char) (c : Char) : Bool := 0x21 ≤ c.toNat && c.toNat ≤ 0x7e && !signs.contains c

/-- what may stand in a fragment -/
def inFragment : Char → Bool := isPlain ['"', '<', '>', Char.ofNat 0x60]

/-- what may stand in a query -/
def inQuery : Char → Bool := isPlain ['"', '#', '<', '>']

/-- what may stand in a path -/
def inPath : Char → Bool := isPlain ['"', '#', '<', '>', '?', Char.ofNat 0x60, '\x7b', '\x7d']

/-- what may stand in front of a host, a colon separating name and password -/
def inUser : Char → Bool :=
  isPlain ['"', '#', '<', '>', '?', Char.ofNat 0x60, '\x7b', '\x7d', '/', ';', '=', '@', '[', '\\', ']', '^', '|']

/-- what may stand in a host -/
def inHost (c : Char) : Bool :=
  c.isAlphanum || ['-', '.', '_', '~', '!', '$', '&', '\'', '(', ')', '*', '+', ',', ';', '=', '"', Char.ofNat 0x60,
    '\x7b', '\x7d', '%', '|', '\\'].contains c

/-- characters that may not stand in a part, percent-encoded byte by byte -/
def encode (allowed : Char → Bool) (cs : List Char) : String :=
  String.ofList <| cs.flatMap fun c =>
    if allowed c then [c]
    else (c.toString.toUTF8.toList).flatMap fun b => '%' :: (Text.hexDigits 2 b.toNat).map Char.toUpper

/-- segments with single points dropped and each double point taking back the segment in front of it -/
def resolvePoints (done : List (List Char)) : List (List Char) → List (List Char)
  | [] => done.reverse
  | s :: rest =>
    if s = ['.'] then resolvePoints done rest
    else if s = ['.', '.'] then resolvePoints (if done = [[]] then done else done.drop 1) rest
    else resolvePoints (s :: done) rest

/-- characters with a sign between each two pieces -/
def joinChars (separator : Char) : List (List Char) → List Char
  | [] => []
  | [s] => s
  | s :: rest => s ++ separator :: joinChars separator rest

/-- a path with its points resolved -/
def normalizePath (path : List Char) : List Char := joinChars '/' (resolvePoints [] (Text.splitOnChar '/' path))

/-- the port that a scheme uses when none is given -/
def usualPort? (scheme : String) : Option Nat :=
  match scheme with
  | "ftp" => some 21
  | "http" | "ws" => some 80
  | "https" | "wss" => some 443
  | _ => none

/-- the digit of a number in the encoding of names: letters first -/
def nameDigit (n : Nat) : Char := if n < 26 then Char.ofNat (0x61 + n) else Char.ofNat (0x30 + n - 26)

/-- the bias of the next number in an encoded name -/
def adaptBias (delta count : Nat) (first : Bool) : Nat :=
  let rec reduce : Nat → Nat → Nat → Nat
    | 0, d, k => k + 36 * d / (d + 38)
    | fuel + 1, d, k => if 455 < d then reduce fuel (d / 35) (k + 36) else k + 36 * d / (d + 38)
  let d := if first then delta / 700 else delta / 2
  reduce 64 (d + d / count) 0

/-- a number in the encoding of names -/
def encodeNumber (bias : Nat) : Nat → Nat → Nat → List Char
  | 0, _, _ => []
  | fuel + 1, k, q =>
    let t := if k ≤ bias then 1 else if bias + 26 ≤ k then 26 else k - bias
    if q < t then [nameDigit q]
    else nameDigit (t + (q - t) % (36 - t)) :: encodeNumber bias fuel (k + 36) ((q - t) / (36 - t))

/-- the rest of an encoded name: for each code point in ascending order the distances between its places -/
def encodeName (label : List Nat) : Nat → Nat → Nat → Nat → Nat → Nat → List Char
  | 0, _, _, _, _, _ => []
  | fuel + 1, n, delta, bias, handled, basic =>
    match (label.filter (n ≤ ·)).min? with
    | none => []
    | some m =>
      let delta := delta + (m - n) * (handled + 1)
      let (out, delta, bias, handled) := label.foldl (fun (out, delta, bias, handled) c =>
        if c < m then (out, delta + 1, bias, handled)
        else if c = m then
          (out ++ encodeNumber bias 64 36 delta, 0, adaptBias delta (handled + 1) (handled == basic), handled + 1)
        else (out, delta, bias, handled)) (([] : List Char), delta, bias, handled)
      out ++ encodeName label fuel (m + 1) (delta + 1) bias handled basic

/-- a label of a host in ASCII -/
def asciiLabel (label : List Char) : List Char :=
  if label.all (·.toNat < 0x80) then label
  else
    let basic := label.filter (·.toNat < 0x80)
    "xn--".toList ++ (if basic.isEmpty then [] else basic ++ ['-']) ++
      encodeName (label.map Char.toNat) (label.length + 1) 0x80 0 72 basic.length basic.length

/-- a host in lower case and ASCII; a malformed numeric one is refused -/
def encodeHost? (cs : List Char) : Option String :=
  if cs.isEmpty then some ""
  else if cs.head? == some '[' && cs.getLast? == some ']' then
    let inner := (cs.drop 1).dropLast
    if isVersionSix inner then some (String.ofList inner) else none
  else
    let octets := Text.splitOnChar '.' cs
    if octets.length == 4 && octets.all (fun o => !o.isEmpty && o.all Char.isDigit) && !isVersionFour cs then none
    else if cs.all (·.toNat < 0x80) then some (encode inHost (cs.map Char.toLower))
    else some (String.ofList (joinChars '.' ((Text.splitOnChar '.' (cs.map Char.toLower)).map asciiLabel)))

/-- the authority taken apart into what stands before the host, the host and the port -/
def splitAuthority (cs : List Char) : List Char × List Char × List Char :=
  let user := cs.takeWhile (· != '@')
  let (user, rest) := if user.length < cs.length then (user, cs.drop (user.length + 1)) else ([], cs)
  match rest with
  | '[' :: _ =>
    let inside := (rest.reverse.dropWhile (· != ']')).reverse
    if inside.isEmpty then (user, rest.takeWhile (· != ':'), (rest.dropWhile (· != ':')).drop 1)
    else
      match rest.drop inside.length with
      | ':' :: port => (user, inside, port)
      | port => (user, inside, port)
  | _ => (user, rest.takeWhile (· != ':'), (rest.dropWhile (· != ':')).drop 1)

/-- the address that a text denotes, if it can be requested at all -/
def ofText? (s : String) : Option Target := do
  let cs := s.toList
  if 65536 < cs.length || cs.any (fun c => c.toNat < 0x20 || c.toNat == 0x7f) then none
  let front := cs.takeWhile fun c => c != ':' && c != '/' && c != '?' && c != '#'
  let hasScheme := (cs.drop front.length).head? == some ':' && front.head?.any Char.isAlpha && front.all isSchemeChar
  let (scheme, rest) := if hasScheme then (front.map Char.toLower, cs.drop (front.length + 1)) else ([], cs)
  let (authority, rest) := takeAuthority rest
  let path := rest.takeWhile fun c => c != '?' && c != '#'
  let rest := rest.drop path.length
  let (query, rest) := match rest with
    | '?' :: more => (some (more.takeWhile (· != '#')), more.dropWhile (· != '#'))
    | _ => (none, rest)
  let fragment := match rest with
    | '#' :: more => some more
    | _ => none
  let (user, host, port) := splitAuthority authority
  let host ← encodeHost? host
  if !port.all Char.isDigit then none
  let scheme := String.ofList scheme
  let port := if port.isEmpty then none else some (Json.digitsValue port)
  let port := if port == usualPort? scheme then none else port
  let user := encode inUser user
  let hasAuthority := user != "" || host != "" || port.isSome
  if hasAuthority && path.head?.any (· != '/') then none
  if scheme == "" && !hasAuthority && (path.take 2 == ['/', '/'] || path.head? == some ':') then none
  let path := if scheme != "" || hasAuthority then normalizePath path else path
  some ⟨scheme, user, host, port, encode inPath path, query.map (encode inQuery), fragment.map (encode inFragment)⟩

/-- whether the address names a host to ask -/
def isAbsolute (t : Target) : Bool := t.scheme != "" && t.host != ""

/-- the text of the address -/
def render (t : Target) : String :=
  let host := if t.host.toList.contains ':' then "[" ++ t.host ++ "]" else t.host
  let authority := (if t.user = "" then "" else t.user ++ "@") ++ host ++
    (match t.port with
      | some p => ":" ++ toString p
      | none => "")
  (if t.scheme = "" then "" else t.scheme ++ ":") ++ (if authority = "" then "" else "//" ++ authority) ++ t.path ++
    (match t.query with
      | some q => "?" ++ q
      | none => "") ++
    (match t.fragment with
      | some f => "#" ++ f
      | none => "")

/-- an address without a host as it is requested: its path and query below the root -/
def rooted (t : Target) : Target :=
  if t.isAbsolute then t
  else
    let path := if t.path = "" then "/" else t.path
    ⟨"", "", "", none, String.ofList ('/' :: path.toList.dropWhile (· == '/')), t.query, none⟩

/-- the segments of a path with their points resolved, never above the root -/
def resolveSegments (done : List (List Char)) : List (List Char) → List (List Char)
  | [] => done.reverse
  | s :: rest =>
    if s = ['.', '.'] then resolveSegments (done.drop 1) rest
    else if s = ['.'] then resolveSegments done rest
    else resolveSegments (s :: done) rest

/-- the path of a reference relative to the path of a base -/
def joinPath (base reference : List Char) : List Char :=
  let baseSegments := Text.splitOnChar '/' base
  let baseSegments := if (baseSegments.getLastD []).isEmpty then baseSegments else baseSegments.dropLast
  let segments :=
    if reference.head? == some '/' then Text.splitOnChar '/' reference
    else
      let all := baseSegments ++ Text.splitOnChar '/' reference
      all.take 1 ++ ((all.drop 1).dropLast.filter (!·.isEmpty)) ++ (all.drop 1).getLast?.toList
  let resolved := resolveSegments [] segments
  let last := segments.getLastD []
  let resolved := if last = ['.'] ∨ last = ['.', '.'] then resolved ++ [[]] else resolved
  let path := joinChars '/' resolved
  if path.isEmpty then ['/'] else path

/-- the address that a redirect from `base` to `location` leads to -/
def redirect? (base : Target) (location : String) : Option Target := do
  let t ← ofText? location
  let t := if t.scheme != "" && t.host == "" then { t with host := base.host } else t
  let t ←
    if t.isAbsolute then some t
    else if t.host != "" then some { t with scheme := base.scheme }
    else if t.path = "" then
      some { base with query := if t.query.getD "" = "" then base.query else t.query, fragment := t.fragment }
    else
      ofText? (Target.render { base with
        path := String.ofList (joinPath base.path.toList t.path.toList), query := t.query, fragment := t.fragment })
  if base.fragment.getD "" != "" && t.fragment.getD "" == "" then some { t with fragment := base.fragment } else some t

end Target

end AmpArticle.Url
