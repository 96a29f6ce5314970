import ServiceCli.CommandLine.Run

/-!
The places that a run reads and those that it changes. A run is a function of its surroundings, so
whoever provides them needs to provide no more than these places.
-/

set_option autoImplicit false
set_option relaxedAutoImplicit false

namespace ServiceCli.CommandLine

open ServiceCli.Files ServiceCli.Settings

/-- The settings that a request gives, if it makes use of settings. -/
def Request.given? : Request → Option (List (Setting × String))
  | .build given _ => some given
  | .operations given => some given
  | .parameters _ given => some given
  | _ => none

/-- The settings of a run with a command line, if it makes use of any. -/
def settingsOfLine? (w : World) (line : List String) : Option Settings := do
  let (_, request) ← (requestOf line).toOption
  (settingsOf w (← request.given?)).toOption

def readsInput (s : Settings) : Bool := s .model == some Model.standardInput

def inputPaths (s : Settings) : List Path :=
  [Setting.model, .buildConfig, .client].filterMap fun field => (s field).map Path.ofText

def changeAt (before : Tree) (place : Place) (entry : Tree) : List (Place × Tree) :=
  match before.get? place with
  | none => [(place, entry)]
  | some old => if old == entry then [] else [(place, entry)]

mutual
/-- The changes of a tree at a place: what is new in directories, from the top, and the files whose
bytes are others. A new directory is listed empty, before what it holds. -/
def changesAt (before : Tree) (place : Place) : Tree → List (Place × Tree)
  | .file bytes => changeAt before place (.file bytes)
  | .directory entries =>
    (if (before.get? place).isSome then [] else [(place, Tree.empty)])
      ++ changesBelow before place entries
def changesBelow (before : Tree) (place : Place) : List (String × Tree) → List (Place × Tree)
  | [] => []
  | (name, entry) :: rest =>
    changesAt before (place ++ [name]) entry ++ changesBelow before place rest
end

def changes (before after : Tree) : List (Place × Tree) := changesAt before [] after

end ServiceCli.CommandLine
