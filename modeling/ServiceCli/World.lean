import ServiceCli.Files.System
import ServiceCli.Web.Header

set_option autoImplicit false
set_option relaxedAutoImplicit false

namespace ServiceCli

/-- What is fetched from an address: an answer with a status, headers and a body, or a failure of
the connection. -/
inductive Fetched where
  | answer (status : Int) (headers : Web.Headers) (body : List UInt8)
  | failure (reason : String)
  deriving Repr

/-- The surroundings of a run. -/
structure World where
  files : Files.System
  environment : List (String × String)
  input : String
  fetch : String → Fetched
  platform : String
  time : String

namespace World

def lookup (w : World) (name : String) : Option String := w.environment.lookup name

end World

end ServiceCli
