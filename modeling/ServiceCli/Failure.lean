import ServiceCli.Json.Reader
import ServiceCli.Literal.Value

set_option autoImplicit false
set_option relaxedAutoImplicit false

namespace ServiceCli

open ServiceCli.Data

/-- What the operating system answers when a file operation fails. The tree of files knows no
permissions, so no operation is answered that it is not permitted. -/
inductive SystemError where
  | notFound
  | notDirectory
  | isDirectory
  | alreadyExists
  | nameTooLong
  | busy
  deriving DecidableEq, Repr

def SystemError.message : SystemError → String
  | .notFound => "No such file or directory"
  | .notDirectory => "Not a directory"
  | .isDirectory => "Is a directory"
  | .alreadyExists => "File exists"
  | .nameTooLong => "File name too long"
  | .busy => "Device or resource busy"

/-- Faults that no message describes: the data has a shape the program does not provide for. -/
inductive Fault where
  | absentOperation
  | wrongKind
  | wrongFieldKind
  | absentKey
  | absentIndex
  | malformedValue
  | malformedEncoding
  | undecodable
  | unencodable
  | notCharset
  | numberTooLarge
  | unmatchedMarkup
  | endlessNesting
  | system (error : SystemError)
  deriving DecidableEq, Repr

/-- The fault that a problem is which does not concern the grammar of a text. -/
def Fault.ofProblem? : Json.Problem → Option Fault
  | .tooManyDigits _ => some .malformedValue
  | _ => none

/-- Why a model cannot be turned into commands. -/
inductive SchemaError where
  | invalidId (id : String)
  | notFound (id : String)
  | notService (id : String) (kind : Value)
  | operationWithoutTarget (service : String)
  | operationWithoutRoute (operation : String)
  | notStructure (id : String) (kind : Value)
  | missingPart (id part : String)
  | memberWithoutTarget (owner : String)
  | unsupported (kind : Value) (id : String)
  | cyclic (chain : List String)
  | tokenCollision (operation : String)
  deriving Repr

def SchemaError.message : SchemaError → String
  | .invalidId id => s!"Invalid shape id: {Literal.quote id}"
  | .notFound id => s!"shape not found: {id}"
  | .notService id kind => s!"{id} is not a service (got {Literal.ofValue kind})"
  | .operationWithoutTarget service => s!"{service} lists an operation without a target"
  | .operationWithoutRoute operation =>
    s!"Operation {operation} has no smithy.api#http trait with a 'uri'; "
      ++ "every operation needs a route"
  | .notStructure id kind => s!"{id} must be a structure (got {Literal.ofValue kind})"
  | .missingPart id part => s!"{id} has no '{part}' member"
  | .memberWithoutTarget owner => s!"Member of {owner} has no target"
  | .unsupported kind id => s!"Unsupported type: {Literal.text kind} (shape {id})"
  | .cyclic chain => "Cyclic shape reference: " ++ " -> ".intercalate chain
  | .tokenCollision operation =>
    s!"Operation {operation} has an input member named 'token', "
      ++ "which collides with the --token authentication flag"

/-- Why an invocation makes no sense. -/
inductive UsageError where
  | noService
  | severalServices (ids : List String)
  | invalidCommandName (name : String)
  | missingInputs (flags : List String)
  | missingModel
  | unknownOperation (name : String) (available : List String)
  deriving Repr

def UsageError.message : UsageError → String
  | .noService => "The model defines no service shape."
  | .severalServices ids =>
    "The model defines several services; choose one with --service: " ++ ", ".intercalate ids
  | .invalidCommandName name =>
    s!"Invalid CLI name {Literal.quote name}: use letters, digits, '-' and '_', "
      ++ "starting with a letter."
  | .missingInputs flags =>
    "Missing " ++ " and ".intercalate flags
      ++ " (or set them in shapecli.json / SHAPECLI_* environment variables)."
  | .missingModel => "Missing --model (or set it in shapecli.json / SHAPECLI_MODEL)."
  | .unknownOperation name available =>
    let names := if available.isEmpty then "none" else ", ".intercalate available
    s!"Unknown operation {Literal.quote name}. Available: {names}"

/-- Why a document cannot be loaded. -/
inductive LoadError where
  | noInput
  | status (code : Int) (url : String)
  | fetchFailed (url reason : String)
  | fileNotFound (path : String)
  | unreadable (path reason : String)
  | emptyFile (path : String)
  | notObject (found : String)
  | invalidJson (detail : String)
  | neitherFormat (jsonDetail : Option String)
  | missingVersion
  | unsupportedVersion (version : String)
  | noShapes
  deriving Repr

def LoadError.message : LoadError → String
  | .noInput => "No input received from stdin"
  | .status code url => s!"HTTP {code} fetching model from {url}"
  | .fetchFailed url reason => s!"Failed to fetch model from {url}: {reason}"
  | .fileNotFound path => s!"Model file not found: {path}"
  | .unreadable path reason => s!"Failed to read model file {path}: {reason}"
  | .emptyFile path => s!"Model file is empty: {path}"
  | .notObject found => s!"Model must be a JSON/YAML object (got {found})"
  | .invalidJson detail => s!"Invalid JSON: {detail}"
  | .neitherFormat jsonDetail =>
    "Failed to parse model as JSON or YAML"
      ++ (match jsonDetail with
        | some detail => s!"\n  JSON error: {detail}"
        | none => "")
      ++ "\n  YAML error:"
  | .missingVersion => "Missing 'smithy' field. Is this a Smithy JSON AST document?"
  | .unsupportedVersion version =>
    s!"Unsupported Smithy version: {version}. Supported versions: 1.0, 2.0."
  | .noShapes => "Model has no 'shapes' object"

/-- Why the configuration cannot be used. -/
inductive ConfigError where
  | pluginNotFound (plugin path : String)
  | incompletePlugin (plugin path : String)
  | invalidProject (path detail : String)
  | invalidSettings (fields : List String)
  deriving Repr

def ConfigError.message : ConfigError → String
  | .pluginNotFound plugin path => s!"Plugin '{plugin}' not found in {path}"
  | .incompletePlugin plugin path =>
    s!"Could not find module or moduleVersion for plugin '{plugin}' in {path}"
  | .invalidProject path detail => s!"Invalid project config at {path}: {detail}"
  | .invalidSettings fields =>
    let plural := if fields.length == 1 then "" else "s"
    s!"Invalid settings: {fields.length} validation error{plural} for GeneratorSettings"

/-- Why a parameter of a generated command is refused. -/
inductive ParameterError where
  | invalidArgument (flag detail : String)
  | invalidJson (flag : String) (problem : Json.Problem)
  | missingRequired (locations : List String)
  | unreadableFile (path reason : String)
  | fileNotJson (path : String) (problem : Json.Problem)
  | fileNotObject (path : String)
  deriving Repr

def ParameterError.message : ParameterError → String
  | .invalidArgument flag detail => s!"{flag}: {detail}"
  | .invalidJson flag problem => s!"{flag}: invalid JSON ({problem.message})"
  | .missingRequired locations =>
    "Missing required parameter(s): " ++ ", ".intercalate locations
  | .unreadableFile path reason => s!"cannot read parameter file {path}: {reason}"
  | .fileNotJson path problem => s!"parameter file {path} is not valid JSON: {problem.message}"
  | .fileNotObject path => s!"parameter file {path} must contain a JSON object"

/-- A failure of any group. -/
inductive Failure where
  | schema (cause : SchemaError)
  | usage (cause : UsageError)
  | load (cause : LoadError)
  | config (cause : ConfigError)
  | output (path reason : String)
  | parameter (cause : ParameterError)
  | blobNotFound (label path : String)
  | fault (cause : Fault)
  deriving Repr

namespace Failure

/-- The wording of a failure; a fault has none. -/
def message? : Failure → Option String
  | .schema cause => some cause.message
  | .usage cause => some cause.message
  | .load cause => some cause.message
  | .config cause => some cause.message
  | .output path reason => some s!"Cannot write {path}: {reason}"
  | .parameter cause => some cause.message
  | .blobNotFound label path => some s!"File not found for {label}: {path}"
  | .fault _ => none

/-- The exit status of the program for the failures it reports itself. -/
def exitCode? : Failure → Option Nat
  | .schema _ => some 7
  | .usage _ => some 2
  | .load _ => some 7
  | .config _ => some 1
  | .output _ _ => some 8
  | _ => none

end Failure

/-- A computation that may fail. -/
abbrev Outcome (α : Type) := Except Failure α

def faulty {α : Type} (f : Fault) : Outcome α := .error (.fault f)

def refuse {α : Type} (e : SchemaError) : Outcome α := .error (.schema e)

end ServiceCli
