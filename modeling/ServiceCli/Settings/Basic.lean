import ServiceCli.Data.Value
import ServiceCli.Package.Meta
import ServiceCli.Text.Utf8

set_option autoImplicit false
set_option relaxedAutoImplicit false

namespace ServiceCli.Settings

open ServiceCli.Data

/-- The settings. -/
inductive Setting where
  | model
  | buildConfig
  | plugin
  | service
  | client
  | cliName
  | cliDescription
  | cliVersion
  | outputDir
  | defaultEndpoint
  deriving DecidableEq, Repr

namespace Setting

/-- Every setting, in the order in which problems are listed. -/
def all : List Setting := [
  .model, .buildConfig, .plugin, .service, .client, .cliName, .cliDescription, .cliVersion,
  .outputDir, .defaultEndpoint]

def name : Setting → String
  | .model => "model"
  | .buildConfig => "build_config"
  | .plugin => "plugin"
  | .service => "service"
  | .client => "client"
  | .cliName => "cli_name"
  | .cliDescription => "cli_description"
  | .cliVersion => "cli_version"
  | .outputDir => "output_dir"
  | .defaultEndpoint => "default_endpoint"

/-- What a setting is where nothing is said about it. -/
def default? : Setting → Option String
  | .plugin => some "python-client-codegen"
  | .outputDir => some "."
  | .defaultEndpoint => some Package.localEndpoint
  | _ => none

def environmentName? : Setting → Option String
  | .model => some "SHAPECLI_MODEL"
  | .buildConfig => some "SHAPECLI_BUILD_CONFIG"
  | .service => some "SHAPECLI_SERVICE"
  | .outputDir => some "SHAPECLI_OUTPUT"
  | _ => none

end Setting

/-- The settings of a build: the text of each, where it has one. -/
abbrev Settings := Setting → Option String

namespace Settings

def get (s : Settings) (field : Setting) : String := (s field).getD ""

def given? (s : Settings) (field : Setting) : Option String :=
  match s field with
  | some text => if text.isEmpty then none else some text
  | none => none

end Settings

/-- The text that a value gives to a setting. Bytes count as the text that they encode; null is
admitted where the setting may be absent. The outer `none` stands for a value that is refused. -/
def admitted? (field : Setting) : Value → Option (Option String)
  | .str s => some (some s)
  | .bytes bs => match Text.decode bs with
    | .ok s => some (some s)
    | .error _ => none
  | .null => if field.default?.isNone then some none else none
  | _ => none

end ServiceCli.Settings
