import ServiceCli.Files.System
import ServiceCli.Package.Files
import ServiceCli.Text.Utf8

set_option autoImplicit false
set_option relaxedAutoImplicit false

namespace ServiceCli.Package

open ServiceCli.Files

def rootOf (outputDirectory command : String) : Path :=
  (Path.ofText outputDirectory).join (.ofText command)

def writeFailure (path : Path) : PathError → Failure
  | .unnameable => .fault .malformedValue
  | .refused cause => .output path.text cause.message

def targetOf (root : Path) (file : File) : Path := root.join (.ofText file.path)

/-- Writes files below a root. The paths of those that were written come with the failure that
stopped the writing, if there was one. -/
def writeFiles (files : System) (root : Path) : List File → System × List Path × Option Failure
  | [] => (files, [], none)
  | file :: rest =>
    let path := targetOf root file
    match files.writeFile path (Text.encode file.content) with
    | (files, .ok ()) =>
      let (files, paths, failure) := writeFiles files root rest
      (files, path :: paths, failure)
    | (files, .error e) => (files, [], some (writeFailure path e))

end ServiceCli.Package
