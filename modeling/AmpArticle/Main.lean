import AmpArticle.Command.Reach

/-!
The program itself: it gathers the files that a run may look at, runs, and carries out what the run has decided.
Downloads are not answered.
-/

namespace AmpArticle.Command

/-- where the resources stand -/
def resourceFolder : String := "/usr/share/amp-article"

/-- a disk with what lies at a path; what cannot be read is not there -/
def look (d : Disk) (path : String) : IO Disk := do
  let place := (← IO.currentDir) / path
  if ← place.isDir then return d.put (d.place path) .folder
  try
    return d.put (d.place path) (.file (← IO.FS.readBinFile place).toList)
  catch _ => return d

/-- a disk with the files of a folder -/
def lookInto (d : Disk) (folder : String) : IO Disk := do
  let d ← look d folder
  let place := (← IO.currentDir) / folder
  let entries ← try place.readDir catch _ => pure #[]
  entries.foldlM (fun d e => look d (Disk.join folder e.fileName)) d

/-- the surroundings of a run -/
def surroundings [Room] (words : List String) : IO Surroundings := do
  let here := (Disk.splitPath (← IO.currentDir).toString).2
  let start := Page.Resources.install resourceFolder ⟨here, [(here, .folder)]⟩
  match plan words with
  | .convert order => do
    let named ← (namedFiles order).foldlM look start
    let s : Surroundings := ⟨named, [], resourceFolder⟩
    let reached ← (reachedFiles s order).foldlM look named
    let full ← match reachedFolder? s order with
      | some folder => lookInto reached folder
      | none => pure reached
    return { s with disk := full }
  | _ => return ⟨start, [], resourceFolder⟩

/-- what a run has decided, carried out -/
def carryOut (o : Outcome) : IO UInt32 := do
  (← IO.getStdout).putStr o.output
  (← IO.getStderr).putStr o.messages
  for (path, text) in o.written do
    IO.FS.createDirAll (Disk.parent path)
    IO.FS.writeFile path text
  return o.exit.toUInt32

/-- a run of the program on the words of the command line -/
def start [Room] (words : List String) : IO UInt32 := do
  match run (← surroundings words) words with
  | .ok outcome => carryOut outcome
  | .error fault => do
    (← IO.getStderr).putStrLn (fault.label ++ ": " ++ fault.message)
    return 1

end AmpArticle.Command

/-- runs the program, with the room that there usually is -/
def main (words : List String) : IO UInt32 := @AmpArticle.Command.start .usual words
