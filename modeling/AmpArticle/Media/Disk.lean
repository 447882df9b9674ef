import AmpArticle.Fault

/-!
Files as the program finds them: a snapshot of folders and file contents, and paths into it. A path is a text; where it
leads is found segment by segment, so that a missing folder, a file in the place of a folder and a name that is too
long are told apart. All of the snapshot can be read: what a system may refuse besides, for want of a permission or
because a path is too long as a whole, lies outside of it.
-/

namespace AmpArticle

/-- what a path may lead to -/
inductive DiskEntry where
  | folder
  | file (bytes : List UInt8)
  deriving Inhabited

/-- a snapshot of files; every entry has the segments of its absolute path, and folders are listed too -/
structure Disk where
  workingFolder : List String
  entries : List (List String × DiskEntry)
  deriving Inhabited

namespace Disk

/-- the parts of a path text: whether it starts at the root, and its segments without empty ones and single points -/
def splitPath (path : String) : Bool × List String :=
  let pieces := Text.splitOnChar '/' path.toList
  (path.toList.head? == some '/', (pieces.filter fun p => !p.isEmpty && p != ['.']).map String.ofList)

/-- the plain spelling of a path: no doubled slashes, no single points; a path of nothing is a single point -/
def normalize (path : String) : String :=
  let (absolute, segments) := splitPath path
  let body := Text.joinWith "/" segments
  if absolute then
    (if path.toList.take 2 == ['/', '/'] && path.toList.take 3 != ['/', '/', '/'] then "//" else "/") ++ body
  else if segments.isEmpty then "." else body

/-- the plain spelling of a folder, with a slash at its end -/
def slashed (folder : String) : String :=
  let plain := normalize folder
  if plain.toList.getLast? == some '/' then plain else plain ++ "/"

/-- a path below a folder; an absolute path stands for itself -/
def join (folder path : String) : String :=
  if path.toList.head? == some '/' then normalize path else normalize (slashed folder ++ path)

/-- the folder that a path lies in -/
def parent (path : String) : String :=
  let (absolute, segments) := splitPath path
  let body := Text.joinWith "/" segments.dropLast
  if absolute then "/" ++ body else if body.isEmpty then "." else body

/-- the longest name of a file in bytes -/
def maxName : Nat := 255

/-- what lies at absolute segments -/
def entry? (d : Disk) (segments : List String) : Option DiskEntry :=
  if segments.isEmpty then some .folder else lookup? segments d.entries

/-- what lies behind the given segments, starting in the folder `here` -/
def walk (d : Disk) (here : List String) : List String → Except FileFault DiskEntry
  | [] =>
    match d.entry? here with
    | some e => .ok e
    | none => .error .notFound
  | s :: rest =>
    match d.entry? here with
    | none => .error .notFound
    | some (.file _) => .error .notDirectory
    | some .folder =>
      if maxName < s.utf8ByteSize then .error .nameTooLong
      else if s = ".." then d.walk here.dropLast rest
      else d.walk (here ++ [s]) rest

/-- what a path leads to -/
def find (d : Disk) (path : String) : Except FileFault DiskEntry :=
  let (absolute, segments) := splitPath path
  d.walk (if absolute then [] else d.workingFolder) segments

/-- the segments of the place that a path leads to, double points taken back -/
def place (d : Disk) (path : String) : List String :=
  let (absolute, segments) := splitPath path
  let all := (if absolute then [] else d.workingFolder) ++ segments
  all.foldl (fun done s => if s = ".." then done.dropLast else done ++ [s]) []

/-- the absolute form of a path -/
def resolve (d : Disk) (path : String) : String := "/" ++ Text.joinWith "/" (d.place path)

/-- the folders that lead to a place, the outermost first -/
def foldersTo (place : List String) : List (List String) :=
  ((List.range place.length).map fun i => place.take i).filter fun p => !p.isEmpty

/-- the disk with an entry at a place, and with the folders that lead there -/
def put (d : Disk) (place : List String) (e : DiskEntry) : Disk :=
  let withFolders := (foldersTo place).foldl
    (fun es p => if (lookup? p es).isSome then es else es ++ [(p, DiskEntry.folder)]) d.entries
  { d with entries := insertEntry place e withFolders }

/-- whether a path holds the character that no path can hold -/
def isBroken (path : String) : Bool := path.toList.any (·.toNat == 0)

/-- the bytes of a file -/
def read (d : Disk) (path : String) : Except Fault (List UInt8) :=
  if isBroken path then .error (.value "embedded null byte")
  else
    match d.find path with
    | .ok (.file bytes) => .ok bytes
    | .ok .folder => .error (.file .isDirectory path)
    | .error cause => .error (.file cause path)

/-- whether there is anything at a path; a name that is too long cannot be asked for -/
def exists? (d : Disk) (path : String) : Except Fault Bool :=
  if isBroken path then .error (.value "embedded null byte")
  else
    match d.find path with
    | .ok _ => .ok true
    | .error .notFound | .error .notDirectory => .ok false
    | .error cause => .error (.file cause path)

/-- the disk with a folder made where a path leads, and all folders on the way; a folder that is there already stays -/
def makeFolder (d : Disk) (path : String) : Except Fault Disk :=
  if isBroken path then .error (.value "embedded null byte")
  else
    match d.find path with
    | .ok .folder => .ok d
    | .ok (.file _) => .error (.file .exists path)
    | .error .notFound => .ok (d.put (d.place path) .folder)
    | .error cause => .error (.file cause path)

/-- the disk with a file written where a path leads; its folder must be there -/
def write (d : Disk) (path text : String) : Except Fault Disk :=
  let put : Except Fault Disk := .ok (d.put (d.place path) (.file text.toUTF8.toList))
  if isBroken path then .error (.value "embedded null byte")
  else
    match d.find path with
    | .ok .folder => .error (.file .isDirectory path)
    | .ok (.file _) | .error .notFound => put
    | .error cause => .error (.file cause path)

end Disk

end AmpArticle
