import ServiceCli.Files.System
import ServiceCli.Text.Utf8

set_option autoImplicit false
set_option relaxedAutoImplicit false

namespace ServiceCli.Files

/-- Why a file cannot be read as text. -/
inductive TextError where
  | path (cause : PathError)
  | encoding (cause : Text.EncodingError) (bytes : List UInt8)
  deriving Repr

def TextError.fault : TextError → Fault
  | .path cause => cause.fault
  | .encoding _ _ => .malformedEncoding

def TextError.failure (e : TextError) : Failure := .fault e.fault

def textOfBytes (bytes : List UInt8) : Except TextError String :=
  match Text.decode bytes with
  | .ok s => .ok (String.ofList (Text.unifyLines s.toList))
  | .error e => .error (.encoding e bytes)

def System.readText (s : System) (p : Path) : Except TextError String :=
  match s.readBytes p with
  | .ok bytes => textOfBytes bytes
  | .error e => .error (.path e)

end ServiceCli.Files
