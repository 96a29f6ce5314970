import ServiceCli.Package.Client
import ServiceCli.Package.Files
import ServiceCli.Service.Extract
import ServiceCli.Settings.Basic

set_option autoImplicit false
set_option relaxedAutoImplicit false

namespace ServiceCli.Package

open ServiceCli.Command ServiceCli.Data ServiceCli.Service ServiceCli.Settings

def generatorVersion : String := "0.1.0"

/-- A compiled package. -/
structure Compiled where
  command : String
  package : String
  service : Service
  files : List File
  deriving Repr

def chosenService (model : Value) (settings : Settings) : Outcome String :=
  match settings.given? .service with
  | some id => .ok id
  | none => onlyService model

/-- The name of the command: the one that is set, or one made from the service's name. -/
def chosenCommand (service : Service) (settings : Settings) : Outcome String :=
  commandName ((settings.given? .cliName).getD (defaultCommandName service.name))

/-- What a package of a service is described by. -/
def chosenDescription (service : Service) (settings : Settings) : String :=
  match settings.given? .cliDescription with
  | some text => text
  | none =>
    if service.documentation.isEmpty then "Command-line interface for " ++ service.name
    else service.documentation

def metaOf (service : Service) (settings : Settings) (client : Client) (command : String) :
    Meta where
  command := command
  package := packageName command
  description := chosenDescription service settings
  version := (settings.given? .cliVersion).getD client.version
  service := service.ref.id
  clientModule := client.module
  clientClass := service.name ++ "Client"
  clientDependency := client.dependency
  endpoint := settings.get .defaultEndpoint
  generatorVersion := generatorVersion

def plansOf (command : String) (policy : AuthPolicy) : List Operation → Outcome (List Plan)
  | [] => .ok []
  | op :: rest => do
    let plan ← planOf op command (policy op)
    let plans ← plansOf command policy rest
    return plan :: plans

def assemble (service : Service) (settings : Settings) (client : Client) (policy : AuthPolicy) :
    Outcome Compiled := do
  let command ← chosenCommand service settings
  let about := metaOf service settings client command
  let plans ← plansOf command policy service.operations
  return ⟨command, about.package, service, filesOf about plans⟩

/-- The package of a model. A policy that is not given follows the service. -/
def compile (model : Value) (settings : Settings) (client : Client) (policy : Option AuthPolicy) :
    Outcome Compiled := do
  let service ← extract model (← chosenService model settings)
  assemble service settings client (policy.getD (bearerAuth service))

end ServiceCli.Package
