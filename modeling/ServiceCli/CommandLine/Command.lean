import ServiceCli.CommandLine.Switch
import ServiceCli.Console.Panel
import ServiceCli.Literal.Quoted

set_option autoImplicit false
set_option relaxedAutoImplicit false

namespace ServiceCli.CommandLine

/-- The commands: the program itself, and those below it. -/
inductive Command where
  | program
  | build
  | inspect
  | operations
  | parameters
  deriving DecidableEq, Repr

def helpSwitch : Switch := ⟨.help, ["--help"], "Show this message and exit."⟩

def modelSwitch : Switch :=
  ⟨.setting .model, ["--model", "-m"], "Smithy JSON AST model: file path, URL, or '-' for stdin."⟩

def serviceSwitch : Switch :=
  ⟨.setting .service, ["--service", "-s"],
    "Service shape id (namespace#Service). Optional for single-service models."⟩

def programSwitches : List Switch := [
  ⟨.version, ["--version"], "Show version and exit."⟩,
  ⟨.json, ["--json"], "JSON output format."⟩,
  ⟨.plain, ["--plain"], "Plain text output."⟩,
  ⟨.colorless, ["--no-color"], "Disable color output."⟩,
  ⟨.quiet, ["--quiet", "-q"], "Suppress non-essential output."⟩,
  ⟨.verbose, ["--verbose", "-v"], "Enable debug output."⟩,
  helpSwitch]

def buildSwitches : List Switch := [
  modelSwitch,
  ⟨.setting .buildConfig, ["--build-config", "-b"],
    "Path to the smithy-build.json that generated the client."⟩,
  ⟨.setting .plugin, ["--plugin"],
    "Plugin entry in smithy-build.json. [default: python-client-codegen]"⟩,
  serviceSwitch,
  ⟨.setting .client, ["--client"],
    "Client requirement for the generated package: a local path or a PEP 508 string."⟩,
  ⟨.setting .cliName, ["--cli-name", "-n"],
    "Name of the generated CLI (lower-cased, spaces become dashes)."⟩,
  ⟨.setting .cliDescription, ["--cli-description"],
    "Help text of the generated CLI. [default: service documentation]"⟩,
  ⟨.setting .cliVersion, ["--cli-version"],
    "Version of the generated package. [default: client version]"⟩,
  ⟨.setting .outputDir, ["--output", "-o"], "Directory to create the package in. [default: .]"⟩,
  ⟨.setting .defaultEndpoint, ["--endpoint"],
    "Default service endpoint baked into the CLI. [default: http://localhost:8080]"⟩,
  ⟨.dryRun, ["--dry-run"], "Print the generated files instead of writing them."⟩,
  helpSwitch]

namespace Command

def switches : Command → List Switch
  | .program => programSwitches
  | .build => buildSwitches
  | .inspect => [helpSwitch]
  | .operations => [modelSwitch, serviceSwitch, helpSwitch]
  | .parameters => [modelSwitch, serviceSwitch, helpSwitch]

def path : Command → String
  | .program => "shapecli"
  | .build => "shapecli build"
  | .inspect => "shapecli inspect"
  | .operations => "shapecli inspect operations"
  | .parameters => "shapecli inspect params"

def below : Command → List (String × Command)
  | .program => [("build", .build), ("inspect", .inspect)]
  | .inspect => [("operations", .operations), ("params", .parameters)]
  | _ => []

def isGroup (c : Command) : Bool := !c.below.isEmpty

def operandText : Command → String
  | .program => "[OPTIONS] COMMAND [ARGS]..."
  | .build => "[OPTIONS]"
  | .inspect => "[OPTIONS] COMMAND [ARGS]..."
  | .operations => "[OPTIONS]"
  | .parameters => "[OPTIONS] OPERATION"

def description : Command → String
  | .program => "Generate command-line programs from Smithy service models."
  | .build => "Generate a CLI package from a Smithy model."
  | .inspect => "Inspect a model without generating code."
  | .operations => "List the operations of the service."
  | .parameters => "Show the flags and required fields of one generated command."

def usage (c : Command) : String := "Usage: " ++ c.path ++ " " ++ c.operandText

/-- An entry of a list on a help page. -/
def entryLine (name description : String) : String :=
  "  " ++ name ++ "".pushn ' ' (26 - name.length) ++ "  " ++ description

def switchLine (s : Switch) : String :=
  entryLine (", ".intercalate s.names ++ (if s.meaning.takesValue then " TEXT" else ""))
    s.description

def belowLines (c : Command) : List String :=
  if c.isGroup then
    "" :: "Commands:" :: c.below.map fun (name, d) => entryLine name d.description
  else []

def helpPage (c : Command) : String :=
  let lines := [c.usage, "", "  " ++ c.description, "", "Options:"]
    ++ c.switches.map switchLine ++ c.belowLines
  String.join (lines.map (· ++ "\n"))

end Command

/-- What is wrong with a command line, and with which command. -/
inductive Misuse where
  | badSwitch (command : Command) (error : SwitchError)
  | unknownCommand (command : Command) (name : String)
  | noCommand (command : Command)
  | missingOperand (command : Command) (name : String)
  | extraOperands (command : Command) (operands : List String)
  deriving Repr

namespace Misuse

def message : Misuse → String
  | .badSwitch _ (.unknown name) => "No such option: " ++ name
  | .badSwitch _ (.missingValue name) => "Option " ++ Literal.quote name ++ " requires an argument."
  | .badSwitch _ (.unwantedValue name) =>
    "Option " ++ Literal.quote name ++ " does not take a value."
  | .unknownCommand _ name => "No such command " ++ Literal.quote name ++ "."
  | .noCommand _ => "Missing command."
  | .missingOperand _ name => "Missing argument " ++ Literal.quote name ++ "."
  | .extraOperands _ [operand] => "Got unexpected extra argument (" ++ operand ++ ")"
  | .extraOperands _ operands =>
    "Got unexpected extra arguments (" ++ " ".intercalate operands ++ ")"

/-- The command whose usage is shown with a misuse. A misuse of a value is told without a usage. -/
def usageOf? : Misuse → Option Command
  | .badSwitch c (.unknown _) => some c
  | .badSwitch _ _ => none
  | .unknownCommand c _ => some c
  | .noCommand c => some c
  | .missingOperand c _ => some c
  | .extraOperands c _ => some c

/-- The usage of a command, with a hint at its help page. -/
def usageLines (c : Command) : String :=
  c.usage ++ "\n" ++ "Try '" ++ c.path ++ " --help' for help.\n"

def page (m : Misuse) (width : Nat) : String :=
  (m.usageOf?.elim "" usageLines) ++ Console.panel width "Error" m.message

end Misuse

end ServiceCli.CommandLine
