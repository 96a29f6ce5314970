import ServiceCli.Command.Flag
import ServiceCli.Json.Printer

set_option autoImplicit false
set_option relaxedAutoImplicit false

namespace ServiceCli.Command

open ServiceCli.Data ServiceCli.Shape

/-- One flag of an example with what stands for its value; an optional one is written in
brackets. -/
structure ExampleFlag where
  name : String
  placeholder : String
  optional : Bool
  deriving DecidableEq, Repr

namespace ExampleFlag

def text (f : ExampleFlag) : String :=
  let body := "--" ++ f.name ++ " " ++ f.placeholder
  if f.optional then "[" ++ body ++ "]" else body

end ExampleFlag

/-- What stands for the value of a member in the example with flags alone. -/
def examplePlaceholder (f : Field) : String :=
  match f.type with
  | .document => "<json|@file.json>"
  | _ => placeholderOf f

/-- A member in the example with flags alone. -/
def exampleFlagOf (f : Field) : ExampleFlag := ⟨f.name, examplePlaceholder f, !f.required⟩

/-- The flags of the example with flags alone: every required one, the token, and the first that
may be left out. -/
def usageFlags (fields : List Field) (needsToken : Bool) : List ExampleFlag :=
  (fields.filter (·.required)).map exampleFlagOf
    ++ (if needsToken then [⟨tokenName, "<string>", false⟩] else [])
    ++ ((fields.filter fun f => !f.required).take 1).map exampleFlagOf

/-- The lines of an invocation with flags alone: the command, then one flag a line. A line that is
not last ends in a backslash. -/
def usageLines (command : String) : List ExampleFlag → List String
  | [] => [command]
  | f :: rest => (command ++ " \\") :: usageLines ("     " ++ f.text) rest

def usageExample (cli operation : String) (fields : List Field) (needsToken : Bool) : List String :=
  usageLines ("$ " ++ cli ++ " " ++ operation) (usageFlags fields needsToken)

/-- What stands for the value of a member in the example with a parameter file. -/
def mixedPlaceholder (f : Field) : String :=
  match f.type with
  | .blob _ => "<file-path>"
  | .document => "<json|@file.json>"
  | _ => "<value>"

/-- The example with a parameter file, the first two flags and the token. -/
def mixedExample (cli operation : String) (fields : List Field) (needsToken : Bool) : String :=
  "$ " ++ cli ++ " " ++ operation ++ " @params.json"
    ++ String.join ((fields.take 2).map fun f => " --" ++ f.name ++ " " ++ mixedPlaceholder f)
    ++ (if needsToken then " --token <value>" else "")

def exampleValue (f : Field) : Value :=
  match f.type with
  | .blob _ => .str "./path/to/file.bin"
  | .document => .object [("example_key", .str "example_value"), ("version", .str "1.0.0")]
  | .list _ => .list [.str "item1", .str "item2"]
  | .primitive name =>
    if integerKinds.contains name then .int 123 else .str ("example_" ++ f.name)
  | _ => .str ("example_" ++ f.name)

/-- The parameters that an example file gives, one for each member, and the token. -/
def exampleValues (fields : List Field) (needsToken : Bool) : Entries :=
  let entries := Entries.ofList (fields.map fun f => (.str f.name, exampleValue f))
  if needsToken then Entries.put entries (.str tokenName) (.str "your_bearer_token_here")
  else entries

/-- JSON with two spaces of indent for each level, in ASCII. -/
def exampleForm : Json.Form := ⟨some 2, true, true⟩

def fileExample (fields : List Field) (needsToken : Bool) : String :=
  "JSON file format (params.json):\n"
    ++ String.ofList ((Json.printValue exampleForm 0 (.map (exampleValues fields needsToken))).getD
      [])

end ServiceCli.Command
