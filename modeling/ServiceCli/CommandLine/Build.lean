import ServiceCli.CommandLine.Session
import ServiceCli.Model.Origin
import ServiceCli.Package.BuildFile
import ServiceCli.Package.Write
import ServiceCli.Settings.Resolve

set_option autoImplicit false
set_option relaxedAutoImplicit false

namespace ServiceCli.CommandLine

open ServiceCli.Console ServiceCli.Data ServiceCli.Files ServiceCli.Package ServiceCli.Settings

def givenEntries (given : List (Setting × String)) : Entries :=
  Entries.ofList (given.map fun (field, text) => (.str field.name, .str text))

def currentDirectory (w : World) : Path := ⟨.root, w.files.current⟩

def settingsOf (w : World) (given : List (Setting × String)) : Outcome Settings :=
  resolve w (givenEntries given) (currentDirectory w)

/-- The switches of the inputs that a build has not been given. -/
def missingSwitches (s : Settings) : List String :=
  (if (s.given? .model).isNone then ["--model"] else [])
    ++ (if (s.given? .buildConfig).isNone then ["--build-config"] else [])

def buildSettings (w : World) (given : List (Setting × String)) : Outcome Settings := do
  let s ← settingsOf w given
  match missingSwitches s with
  | [] => return s
  | missing => .error (.usage (.missingInputs missing))

def loadModel (w : World) (source : String) : Outcome Value := do
  let model ← Model.load w source
  let _ ← Model.validate model
  return .map model

def loadClient (w : World) (s : Settings) : Outcome Client := do
  let client ← clientOfFile w.files (s.get .buildConfig) (s.get .plugin)
  (client.withRequirement w.files (s .client)).mapError PathError.failure

def loadInputs (w : World) (s : Settings) : Outcome (Value × Client) := do
  let model ← loadModel w (s.get .model)
  let client ← loadClient w s
  return (model, client)

/-- A package that is ready, and the directory for it. -/
structure Prepared where
  compiled : Compiled
  directory : String
  deriving Repr

def prepareFrom (s : Settings) (model : Value) (client : Client) : Outcome Prepared := do
  let compiled ← compile model s client none
  return ⟨compiled, s.get .outputDir⟩

/-- Prepares a package, with the notices of the work as far as it gets. -/
def prepare (w : World) (given : List (Setting × String)) : List Notice × Outcome Prepared :=
  match buildSettings w given with
  | .error f => ([], .error f)
  | .ok s =>
    match loadInputs w s with
    | .error f => ([.settings (settingEntries s)], .error f)
    | .ok (model, client) =>
      (.settings (settingEntries s) :: compilingNotices model s, prepareFrom s model client)

namespace Prepared

def root (p : Prepared) : Path := rootOf p.directory p.compiled.command

/-- Prints the files of a package instead of writing them. -/
def preview (m : Manner) (p : Prepared) : Session Unit := do
  for file in p.compiled.files do
    Session.print (Manner.file (p.compiled.command ++ "/" ++ file.path) file.content)
  Session.tell m .info s!"Dry run: {p.compiled.files.length} file(s) not written."

def write (m : Manner) (p : Prepared) : Session (List Path) := do
  let (files, paths, failure) := writeFiles (← get).files p.root p.compiled.files
  modify fun r => { r with files := files }
  for (path, file) in paths.zip p.compiled.files do
    Session.note m (.wrote path file.content.length)
  match failure with
  | some f => throw f
  | none => return paths

def store (m : Manner) (p : Prepared) : Session Unit := do
  let paths ← p.write m
  for path in paths do
    Session.tell m .debug s!"wrote {path.text}"
  let count := p.compiled.service.operations.length
  Session.tell m .success
    s!"Generated {p.compiled.command} with {count} command(s) in {p.root.text}"
  Session.tell m .hint s!"pip install {p.root.text}"

end Prepared

def build (w : World) (m : Manner) (given : List (Setting × String)) (dryRun : Bool) :
    Session Unit := do
  let (notices, outcome) := prepare w given
  for n in notices do
    Session.note m n
  let prepared ← outcome
  if dryRun then prepared.preview m else prepared.store m

end ServiceCli.CommandLine
