import ServiceCli.Model.Origin
import ServiceCli.Package.Client

set_option autoImplicit false
set_option relaxedAutoImplicit false

namespace ServiceCli.Package

open ServiceCli.Data ServiceCli.Files

/-- The plugin whose entry is used unless another is named. -/
def defaultPlugin : String := "python-client-codegen"

def pluginEntry (config : Entries) (plugin name : String) : Outcome Entries := do
  let plugins ← Shape.entriesOf (Shape.orEmpty (Value.field config "plugins"))
  match Value.field plugins plugin with
  | .map entry => return entry
  | _ => .error (.config (.pluginNotFound plugin name))

def clientOfFile (files : System) (name plugin : String) : Outcome Client := do
  let entry ← pluginEntry (← Model.loadFile files name) plugin name
  let module := (Value.field entry "module").orElse (Value.field entry "package")
  let version := (Value.field entry "moduleVersion").orElse (Value.field entry "packageVersion")
  if module.isTruthy && version.isTruthy then
    return ⟨Literal.text module, Literal.text version, none⟩
  else .error (.config (.incompletePlugin plugin name))

end ServiceCli.Package
