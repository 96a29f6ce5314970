import ServiceCli.Command.Name

set_option autoImplicit false
set_option relaxedAutoImplicit false

namespace ServiceCli.Package

def localEndpoint : String := "http://localhost:8080"

/-- The name, the version and the surroundings of a package. -/
structure Meta where
  command : String
  package : String
  description : String
  version : String
  service : String
  clientModule : String
  clientClass : String
  clientDependency : String
  endpoint : String
  generatorVersion : String
  deriving DecidableEq, Repr

namespace Meta

def endpointVariable (m : Meta) : String :=
  Command.replaceChar '-' '_' (Text.upper m.command) ++ "_ENDPOINT"

def generator (m : Meta) : String :=
  if m.generatorVersion.isEmpty then "shapecli" else "shapecli " ++ m.generatorVersion

def moduleDocumentation (m : Meta) : String :=
  m.description ++ "\n\nGenerated by " ++ m.generator ++ " from " ++ m.service
    ++ ".\nRegenerate instead of editing by hand.\n"

end Meta

end ServiceCli.Package
