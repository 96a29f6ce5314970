import ServiceCli.Files.Text
import ServiceCli.Settings.Basic
import ServiceCli.World

/-!
Resolving settings. Each setting is taken from the first of these that says something about it: the
command line, the environment, the project file, the default. A value that loses against another
has no influence, and the settings with values that are refused are reported together.
-/

set_option autoImplicit false
set_option relaxedAutoImplicit false

namespace ServiceCli.Settings

open ServiceCli.Data ServiceCli.Files

/-! ### The data directory

Logs of crashes are kept in it. Some systems have a convention for it; on all others it is a hidden
directory of the user.
-/

/-- Whether a system follows the convention of a data directory for all programs. -/
def hasSharedData (platform : String) : Bool :=
  platform == "Linux" || "BSD".toList.isSuffixOf platform.toList

/-- The directory of the user: the value of `HOME` without slashes at its end. -/
def homeDirectory (w : World) : Path :=
  let text := (w.lookup "HOME").getD ""
  let trimmed := String.ofList ((text.toList.reverse.dropWhile (· == '/')).reverse)
  .ofText (if trimmed.isEmpty then "/" else trimmed)

def sharedData (w : World) : Path :=
  let given := (w.lookup "XDG_DATA_HOME").getD ""
  if given.isEmpty then (homeDirectory w).join (.ofText ".local/share") else .ofText given

def dataDirectory (w : World) : Path :=
  if hasSharedData w.platform then (sharedData w).join (.ofText "shapecli")
  else (homeDirectory w).join (.ofText ".shapecli/logs")

def ensureDataDirectory (w : World) : System × Answer Path :=
  let path := dataDirectory w
  match w.files.ensureDirectories path with
  | (files, .ok ()) => (files, .ok path)
  | (files, .error e) => (files, .error e)

/-! ### Settings -/

def projectFileName : String := "shapecli.json"

def projectFile (directory : Path) : Path := directory.join (.ofText projectFileName)

/-- The contents of a project file, which must be a JSON object. -/
def readProject (path : Path) (text : String) : Outcome Entries :=
  match Json.read text with
  | .error e => .error (.config (.invalidProject path.text (e.located text)))
  | .ok (.map entries) => .ok entries
  | .ok _ => .error (.config (.invalidProject path.text "expected a JSON object"))

def loadProject (files : System) (directory : Path) : Outcome (Option Entries) := do
  let path := projectFile directory
  match files.isFile path with
  | .error e => .error e.failure
  | .ok false => return none
  | .ok true =>
    match files.readText path with
    | .error (.encoding e bytes) =>
      .error (.config (.invalidProject path.text (e.message bytes)))
    | .error e => .error e.failure
    | .ok text => return some (← readProject path text)

/-- What the environment says about a setting; an empty variable says nothing. -/
def fromEnvironment (w : World) (field : Setting) : Option Value := do
  let text ← w.lookup (← field.environmentName?)
  if text.isEmpty then none else some (.str text)

/-- What the command line says about a setting; null says nothing. -/
def fromCommandLine (given : Entries) (field : Setting) : Option Value :=
  match Entries.get? given field.name with
  | some .null => none
  | other => other

/-- The value that a setting is taken from, if anything is said about it. -/
def winner (w : World) (project given : Entries) (field : Setting) : Option Value :=
  (fromCommandLine given field) <|> (fromEnvironment w field)
    <|> (Entries.get? project field.name)

/-- Admits the winning values, or names the settings whose winning values are refused. -/
def accept (chosen : Setting → Option Value) : Except (List Setting) Settings :=
  let text (field : Setting) : Option (Option String) :=
    match chosen field with
    | some v => admitted? field v
    | none => some field.default?
  match Setting.all.filter fun field => (text field).isNone with
  | [] => .ok fun field => (text field).getD none
  | refused => .error refused

def resolve (w : World) (given : Entries) (directory : Path) : Outcome Settings := do
  let project ← loadProject w.files directory
  match accept (winner w (project.getD []) given) with
  | .ok settings => return settings
  | .error fields => .error (.config (.invalidSettings (fields.map Setting.name)))

end ServiceCli.Settings
