import ServiceCli.CommandLine.Footprint

/-!
The program on a real system. The places that a run reads are read first, then the run is computed,
and its changes are carried out. There is no network, and the streams are taken for files.
-/

set_option autoImplicit false
set_option relaxedAutoImplicit false

namespace ServiceCli.Program

open ServiceCli.CommandLine ServiceCli.Files ServiceCli.Settings

/-- The environment variables that a run may ask for. -/
def variableNames : List String :=
  Setting.all.filterMap Setting.environmentName?
    ++ ["HOME", "XDG_DATA_HOME", "COLUMNS", "TERM", "NO_COLOR"]

def readEnvironment : IO (List (String × String)) := do
  let found ← variableNames.mapM fun name => do
    return (← IO.getEnv name).map fun text => (name, text)
  return found.filterMap id

def placeText (place : Place) : String := "/" ++ "/".intercalate place

/-- The entry with a name; what can be opened but not read is a directory. -/
def readEntry (name : String) : IO (Option Tree) := do
  try
    return some (.file (← IO.FS.readBinFile name).toList)
  catch _ =>
    try
      let _ ← IO.FS.Handle.mk name .read
      return some .empty
    catch _ => return none

def lookAlong (t : Tree) (place : Place) : List String → IO Tree
  | [] => return t
  | name :: rest => do
    if name = upName then lookAlong t place.dropLast rest
    else
      let here := place ++ [name]
      if (t.get? here).isSome then lookAlong t here rest
      else match ← readEntry (placeText here) with
        | some entry => lookAlong (t.put here entry) here rest
        | none => return t

/-- Adds to a file system what the system has along a path. -/
def lookAt (s : System) (p : Path) : IO System := do
  return { s with tree := ← lookAlong s.tree (s.start p) p.names }

/-- The rest of a stream. -/
partial def readAll (stream : IO.FS.Stream) (before : String) : IO String := do
  let line ← stream.getLine
  if line.isEmpty then return before else readAll stream (before ++ line)

/-- The standard input of a run. -/
def readInput (settings : Option Settings) : IO String := do
  if settings.any readsInput then
    let text ← readAll (← IO.getStdin) ""
    return String.ofList (Text.unifyLines text.toList)
  else return ""

/-- The surroundings of a run before anything but the project file is looked at. -/
def firstWorld : IO World := do
  let current := (Path.ofText (toString (← IO.currentDir))).names
  let files ← lookAt ⟨.empty, []⟩ ⟨.root, current⟩
  let files ← lookAt { files with current := current } (.ofText projectFileName)
  return {
    files := files
    environment := ← readEnvironment
    input := ""
    fetch := fun _ => .failure "there is no network"
    platform := "Linux"
    time := toString (← IO.monoMsNow) }

/-- The surroundings of a run with all that it reads. -/
def secondWorld (line : List String) : IO World := do
  let w ← firstWorld
  let settings := settingsOfLine? w line
  let paths := settings.elim [] inputPaths
  let files ← paths.foldlM lookAt w.files
  return { w with files := files, input := ← readInput settings }

/-- The surroundings of a run with all that it reads and all that it would change. -/
def wholeWorld (line : List String) : IO World := do
  let w ← secondWorld line
  match run w line with
  | .ok c =>
    let places := (changes w.files.tree c.record.files.tree).map (·.1)
    return { w with files := ← places.foldlM (fun s place => lookAt s ⟨.root, place⟩) w.files }
  | .error _ => return w

def carryOut (change : Place × Tree) : IO Unit := do
  let name := placeText change.1
  match change.2 with
  | .directory _ => IO.FS.createDir name
  | .file bytes =>
    IO.FS.writeBinFile (name ++ ".tmp") ⟨bytes.toArray⟩
    IO.FS.rename (name ++ ".tmp") name

def runOn (line : List String) : IO UInt32 := do
  let w ← wholeWorld line
  match run w line with
  | .ok c =>
    (changes w.files.tree c.record.files.tree).forM carryOut
    (← IO.getStdout).putStr c.record.output
    (← IO.getStderr).putStr c.record.messages
    return c.status.toUInt32
  | .error f =>
    (← IO.getStderr).putStr (crashText f)
    return crashStatus.toUInt32

end ServiceCli.Program

/-- The program. -/
def main (line : List String) : IO UInt32 := ServiceCli.Program.runOn line
