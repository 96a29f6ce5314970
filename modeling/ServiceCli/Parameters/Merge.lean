import ServiceCli.Files.Text

set_option autoImplicit false
set_option relaxedAutoImplicit false

namespace ServiceCli.Parameters

open ServiceCli.Data ServiceCli.Files

/-- A name without the `@` before it. -/
def withoutMark (argument : String) : String :=
  match argument.toList with
  | '@' :: rest => String.ofList rest
  | _ => argument

/-- The parameters in the text of a file, which must be a JSON object. -/
def parametersOfText (path : Path) (text : String) : Outcome Entries :=
  match Json.read text with
  | .ok (.map entries) => .ok entries
  | .ok _ => .error (.parameter (.fileNotObject path.text))
  | .error e =>
    match Fault.ofProblem? e.problem with
    | some fault => faulty fault
    | none => .error (.parameter (.fileNotJson path.text e.problem))

def loadFile (files : System) : Option String → Outcome Entries
  | none => .ok []
  | some argument =>
    let path : Path := .ofText (withoutMark argument)
    match files.readText path with
    | .ok text => parametersOfText path text
    | .error (.path (.refused cause)) =>
      .error (.parameter (.unreadableFile path.text cause.message))
    | .error e => .error e.failure

/-- Whether a flag was given: null, and the empty list of a repeatable flag, stand for none. -/
def isGiven : Value → Bool
  | .null => false
  | .list [] => false
  | .tuple [] => false
  | _ => true

/-- The value that a flag gives; the arguments of a repeatable flag are a list. -/
def givenValue : Value → Value
  | .tuple items => .list items
  | v => v

/-- The parameters with the flag of one name laid over them. -/
def overlay (parameters : Entries) (flag : Key × Value) : Entries :=
  if isGiven flag.2 then Entries.put parameters flag.1 (givenValue flag.2) else parameters

/-- The parameters of a file with flags laid over them. -/
def merge (file flags : Entries) : Entries := flags.foldl overlay file

end ServiceCli.Parameters
