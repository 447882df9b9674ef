import AmpArticle.Media.Disk
import AmpArticle.Media.Image
import AmpArticle.Media.Web

/-!
Dimensions of media by address. They are looked up in a fixed chain and the first hit counts: the explicit table, a
local copy of the same file name, for images a download when that is allowed, and the default box.
-/

namespace AmpArticle.Media

/-- what an address shows; only images are downloaded -/
inductive Kind where
  | image
  | video
  deriving DecidableEq, Inhabited

/-- how dimensions are looked up -/
structure SizeConfig where
  sizes : List (String × Size)
  cacheFolder : Option String
  download : Bool
  defaultSize : Size
  deriving Inhabited

/-- width and height of media of unknown size -/
def defaultWidth : Int := 380

/-- height of media of unknown size -/
def defaultHeight : Int := 240

/-- no explicit sizes, no local copies and no downloads -/
def SizeConfig.usual : SizeConfig := ⟨[], none, false, ⟨defaultWidth, defaultHeight⟩⟩

/-- how important a log line is -/
inductive LogLevel where
  | debug
  | info
  | warning
  | error
  deriving DecidableEq, Inhabited

/-- a line of the log -/
structure LogLine where
  level : LogLevel
  text : String
  deriving DecidableEq, Inhabited

/-- a size, with the addresses that were asked for it and what was logged -/
structure Lookup where
  size : Size
  requests : List String
  log : List LogLine
  deriving Inhabited

/-- width and height joined by a cross -/
def sizeText (s : Size) : String := toString s.width ++ "x" ++ toString s.height

/-- the lookups of one resolver: what it is given, the client that it makes when it needs one, and the client in use,
which may be borrowed -/
structure Session where
  config : SizeConfig
  disk : Disk
  /-- the size of an image, if the bytes are one -/
  imageSize : List UInt8 → Option Size
  own : Client
  client : Option Client
  borrowed : Bool
  deriving Inhabited

namespace Session

/-- no lookup yet, with a client to borrow if one is given -/
def start (config : SizeConfig) (disk : Disk) (imageSize : List UInt8 → Option Size) (own : Client)
    (given : Option Client) : Session :=
  ⟨config, disk, imageSize, own, given, given.isSome⟩

/-- the client in use, made when there is none yet -/
def connect (s : Session) : Client × Session :=
  match s.client with
  | some client => (client, s)
  | none => (s.own, { s with client := some s.own })

/-- the end of a session: a borrowed client stays -/
def close (s : Session) : Session := if s.borrowed then s else { s with client := none }

/-- the size of the local copy of an address, with the log of looking at it; a name that is no file is no copy -/
def cached (s : Session) (url : String) : Except Fault (Option Size × List LogLine) := do
  match s.config.cacheFolder with
  | none => return (none, [])
  | some folder =>
    let name ← Url.fileName url
    if name.isEmpty then return (none, [])
    let path := Disk.join folder name
    if Disk.isBroken path then return (none, [])
    match s.disk.find path with
    | .ok (.file bytes) =>
      match s.imageSize bytes with
      | some size => return (some size, [⟨.debug, s!"Resolved {url} from media cache: {sizeText size}"⟩])
      | none => return (none, [⟨.debug, s!"Could not read image size from {path}"⟩])
    | .ok .folder => return (none, [])
    | .error .notFound | .error .notDirectory => return (none, [])
    | .error cause => throw (.file cause path)

/-- the size of a downloaded image, with the addresses asked and the log -/
def fetched (s : Session) (client : Client) (url : String) : Option Size × List String × List LogLine :=
  let (requests, result) := client.get url
  match result with
  | .response status body =>
    if 200 ≤ status ∧ status ≤ 299 then
      match s.imageSize body with
      | some size => (some size, requests, [])
      | none => (none, requests, [⟨.debug, s!"Could not read image size from {url}"⟩])
    else (none, requests, [⟨.warning, s!"Failed to download {url} for sizing: HTTP {status}"⟩])
  | .failed text => (none, requests, [⟨.warning, s!"Failed to download {url} for sizing: {text}"⟩])
  | .unusable => (none, requests, [⟨.debug, s!"Could not read image size from {url}"⟩])

/-- the default size of an address, after the requests and the log of looking for a better one -/
def default (s : Session) (url : String) (requests : List String) (log : List LogLine) : Lookup :=
  ⟨s.config.defaultSize, requests, log ++ [⟨.debug, s!"Using default dimensions for {url}"⟩]⟩

/-- the size of an image at an address that is looked for on the web -/
def download (s : Session) (url : String) (cacheLog : List LogLine) : Lookup × Session :=
  let (client, s) := s.connect
  match s.fetched client url with
  | (some size, requests, log) =>
    if size.width ≠ 0 then
      (⟨size, requests, cacheLog ++ log ++ [⟨.debug, s!"Resolved {url} by download: {sizeText size}"⟩]⟩, s)
    else (s.default url requests (cacheLog ++ log), s)
  | (none, requests, log) => (s.default url requests (cacheLog ++ log), s)

/-- the size of media at an address -/
def resolve (s : Session) (url : String) (kind : Kind) : Except Fault Lookup × Session :=
  match lookup? url s.config.sizes with
  | some size => (.ok ⟨size, [], []⟩, s)
  | none =>
    match s.cached url with
    | .error fault => (.error fault, s)
    | .ok (some size, log) => (.ok ⟨size, [], log⟩, s)
    | .ok (none, log) =>
      if kind = .image ∧ s.config.download = true then
        let (found, s) := s.download url log
        (.ok found, s)
      else (.ok (s.default url [] log), s)

end Session

/-- where sizes come from: the configuration, the files and the web. A borrowed client follows no redirects -/
structure Resolver where
  config : SizeConfig
  disk : Disk
  web : Web
  followsRedirects : Bool
  deriving Inhabited

namespace Resolver

/-- the lookups of a resolver from the first one on -/
def session (r : Resolver) : Session :=
  .start r.config r.disk Image.size? (r.web.client true) <|
    if r.followsRedirects then none else some (r.web.client false)

/-- the size of media at an address; lookups before this one make no difference -/
def resolve (r : Resolver) (url : String) (kind : Kind) : Except Fault Lookup := (r.session.resolve url kind).1

/-- the size of a picture at an address that may be any value; only a text is ever found anywhere, and a number that is
too long to be logged fails -/
def resolveAny (r : Resolver) (url : Json) : Except Fault Lookup :=
  match url with
  | .text s => r.resolve s .image
  | .list _ | .object _ => .error (.unhashable url.kindName)
  | _ =>
    if r.config.cacheFolder.isSome && url.isTruthy then
      .error (.member s!"'{url.kindName}' object has no attribute 'decode'")
    else
      match url.obstacle? 0 with
      | some limit => .error (.limit limit)
      | none =>
        .ok ⟨r.config.defaultSize, [],
          (if r.config.download then [⟨.debug, s!"Could not read image size from {url.plain}"⟩] else [])
            ++ [⟨.debug, s!"Using default dimensions for {url.plain}"⟩]⟩

end Resolver

end AmpArticle.Media
