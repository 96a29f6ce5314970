import ServiceCli.Json.Reader
import ServiceCli.Yaml.Document

/-!
The content of a model: a mapping, written as JSON or as YAML. JSON is tried first unless YAML is
expected; where JSON is expected, YAML is not tried. Two versions of models are supported, and a
model of either has a mapping of shapes.
-/

set_option autoImplicit false
set_option relaxedAutoImplicit false

namespace ServiceCli.Model

open ServiceCli.Data

/-- A format of content. -/
inductive Format where
  | json
  | yaml
  deriving DecidableEq, Repr

def refuseContent {α : Type} (cause : LoadError) : Outcome α := .error (.load cause)

def mappingOf : Value → Outcome Entries
  | .map entries => .ok entries
  | v => refuseContent (.notObject v.kindName)

def emptyDocument : String := "empty document"

/-- Content in YAML; `jsonDetail` tells why it is not JSON, where that was tried. -/
def readYaml (jsonDetail : Option String) (content : String) : Outcome Entries :=
  match Yaml.Document.read content with
  | .ok .empty => refuseContent (.notObject emptyDocument)
  | .ok (.finite .null) => refuseContent (.notObject emptyDocument)
  | .ok (.finite v) => mappingOf v
  | .ok (.endless outline) => do
    let _ ← mappingOf outline
    faulty .endlessNesting
  | .error .malformed => refuseContent (.neitherFormat jsonDetail)
  | .error (.fault cause) => faulty cause

def readContent (expected : Option Format) (content : String) : Outcome Entries :=
  if expected = some .yaml then readYaml none content
  else match Json.read content with
    | .ok v => mappingOf v
    | .error e =>
      match Fault.ofProblem? e.problem with
      | some fault => faulty fault
      | none =>
        if expected = some .json then refuseContent (.invalidJson (e.located content))
        else readYaml (some (e.located content)) content

def supportedVersions : List String := ["1.0", "2.0"]

/-- The version of a model, which must be supported; a number counts as its text. -/
def validate (model : Entries) : Outcome String :=
  let refuse (cause : LoadError) : Outcome String := .error (.load cause)
  match Value.field model "smithy" with
  | .null => refuse .missingVersion
  | version =>
    let text := Literal.text version
    if !supportedVersions.contains text then refuse (.unsupportedVersion text)
    else match Value.field model "shapes" with
      | .map _ => .ok text
      | _ => refuse .noShapes

end ServiceCli.Model
