import ServiceCli.Command.Reading
import ServiceCli.Files.Text

set_option autoImplicit false
set_option relaxedAutoImplicit false

namespace ServiceCli.Parameters

open ServiceCli.Command ServiceCli.Data ServiceCli.Files ServiceCli.Number

def refuseArgument {α : Type} (flag detail : String) : Outcome α :=
  .error (.parameter (.invalidArgument flag detail))

def unexpected {α : Type} (flag expected : String) (given : Value) : Outcome α :=
  refuseArgument flag (s!"expected {expected}, got {Literal.ofValue given}")

/-- A whole number, from a text or from a number, whose fraction is cut off. -/
def readInteger (flag : String) (given : Value) : Outcome Value :=
  match given with
  | .str s => match parseInt? 10 s with
    | some i => .ok (.int i)
    | none => unexpected flag "an integer" given
  | .int i => .ok (.int i)
  | .bool b => .ok (.int (if b then 1 else 0))
  | .float (.infinite _) => faulty .numberTooLarge
  | .float x => match x.truncate? with
    | some i => .ok (.int i)
    | none => unexpected flag "an integer" given
  | _ => unexpected flag "an integer" given

/-- The nearest floating-point number, unless the whole number is beyond all of them. -/
def floatOfInt (i : Int) : Outcome Value :=
  match Binary64.ofInt i with
  | .infinite _ => faulty .numberTooLarge
  | x => .ok (.float x)

def readFloat (flag : String) (given : Value) : Outcome Value :=
  match given with
  | .str s => match parseFloat? s with
    | some x => .ok (.float x)
    | none => unexpected flag "a number" given
  | .int i => floatOfInt i
  | .bool b => floatOfInt (if b then 1 else 0)
  | .float x => .ok (.float x)
  | _ => unexpected flag "a number" given

def trueWords : List String := ["true", "1", "yes", "y", "on"]

def falseWords : List String := ["false", "0", "no", "n", "off"]

def readBoolean (flag : String) (given : Value) : Outcome Value :=
  let word := Text.lower (Text.strip (Literal.text given))
  if trueWords.contains word then .ok (.bool true)
  else if falseWords.contains word then .ok (.bool false)
  else unexpected flag "true or false" given

/-- The path of an existing file, which is kept as it is given. -/
def readFilePath (files : System) (flag : String) (given : Value) : Outcome Value :=
  match given with
  | .str s => match files.isFile (.ofText s) with
    | .ok true => .ok given
    | .ok false => refuseArgument flag s!"file not found: {s}"
    | .error e => .error e.failure
  | _ => faulty .wrongKind

def readNamedFile (files : System) (flag name : String) : Outcome String :=
  let path : Path := .ofText name
  match files.readText path with
  | .ok text => .ok text
  | .error (.path (.refused cause)) =>
    refuseArgument flag s!"cannot read {path.text}: {cause.message}"
  | .error e => .error e.failure

def readJsonText (flag text : String) : Outcome Value :=
  match Json.read text with
  | .ok v => .ok v
  | .error e =>
    match Fault.ofProblem? e.problem with
    | some fault => faulty fault
    | none => .error (.parameter (.invalidJson flag e.problem))

/-- JSON, given itself or by the name of a file after `@`. -/
def readJson (files : System) (flag : String) (given : Value) : Outcome Value :=
  match given with
  | .str s => match s.toList with
    | '@' :: name => do readJsonText flag (← readNamedFile files flag (String.ofList name))
    | _ => readJsonText flag s
  | _ => faulty .absentOperation

def readArgument (files : System) (reading : Reading) (flag : String) (given : Value) :
    Outcome Value :=
  match reading with
  | .text => .ok given
  | .integer => readInteger flag given
  | .float => readFloat flag given
  | .boolean => readBoolean flag given
  | .file => readFilePath files flag given
  | .json => readJson files flag given
  | .document => readJson files flag given

end ServiceCli.Parameters
