import ServiceCli.Json.Quoted
import ServiceCli.Package.Function
import ServiceCli.Package.Header
import ServiceCli.Package.Meta

set_option autoImplicit false
set_option relaxedAutoImplicit false

namespace ServiceCli.Package

open ServiceCli.Command ServiceCli.Source

def manifestLines (m : Meta) : List String := [
  "[build-system]",
  "requires = [\"hatchling\"]",
  "build-backend = \"hatchling.build\"",
  "",
  "[project]",
  "name = " ++ Json.quote m.command,
  "version = " ++ Json.quote m.version,
  "description = " ++ Json.quote m.description,
  "requires-python = \">=3.10\"",
  "dependencies = [",
  "    " ++ Json.quote m.clientDependency ++ ",",
  "    \"shapecli\",",
  "    \"typer>=0.12\",",
  "]",
  "",
  "[project.scripts]",
  m.command ++ " = \"" ++ m.package ++ ".cli:main\"",
  "",
  "[tool.hatch.metadata]",
  "allow-direct-references = true",
  "",
  "[tool.hatch.build.targets.wheel]",
  "packages = [\"src/" ++ m.package ++ "\"]"]

def manifestText (m : Meta) : String := String.join ((manifestLines m).map (· ++ "\n"))

/-- A generated file, at a path relative to the package. -/
structure File where
  path : String
  content : String
  deriving DecidableEq, Repr

def commandSources (m : Meta) (plans : List Plan) : List (List Line) :=
  List.zipWith (functionLines m) plans (functionNames plans)

def programLines (m : Meta) (plans : List Plan) : List Line :=
  headerLines m (plans.map (·.operation.name)) ++ (commandSources m plans).flatten ++ footerLines m

def filesOf (m : Meta) (plans : List Plan) : List File :=
  let folder := "src/" ++ m.package
  [⟨"pyproject.toml", manifestText m⟩,
    ⟨folder ++ "/__init__.py", textOf (initLines m)⟩,
    ⟨folder ++ "/__main__.py", textOf (mainLines m)⟩,
    ⟨folder ++ "/cli.py", textOf (programLines m plans)⟩]

end ServiceCli.Package
