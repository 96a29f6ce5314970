import ServiceCli.Command.Name
import ServiceCli.Files.System
import ServiceCli.Text.Utf8

set_option autoImplicit false
set_option relaxedAutoImplicit false

namespace ServiceCli.Package

open ServiceCli.Files

/-- A client library: its module, its version, and how it is asked for where that is given. -/
structure Client where
  module : String
  version : String
  requirement : Option String
  deriving DecidableEq, Repr

namespace Client

def distribution (c : Client) : String := Command.replaceChar '_' '-' c.module

/-- The dependency of a package on its client: what is given, or the exact version. -/
def dependency (c : Client) : String :=
  match c.requirement with
  | some text => if text.isEmpty then c.distribution ++ "==" ++ c.version else text
  | none => c.distribution ++ "==" ++ c.version

/-- A byte that stands for itself in an address. -/
def isPlainByte (b : UInt8) : Bool :=
  let c := Char.ofNat b.toNat
  b.toNat < 0x80 && (c.isAlphanum || c == '_' || c == '.' || c == '-' || c == '~' || c == '/')

def upperDigit (n : Nat) : Char := if n < 10 then Char.ofNat (0x30 + n) else Char.ofNat (0x37 + n)

def addressByte (b : UInt8) : List Char :=
  if isPlainByte b then [Char.ofNat b.toNat]
  else ['%', upperDigit (b.toNat / 16), upperDigit (b.toNat % 16)]

def fileAddress (place : Place) : String :=
  "file://" ++ String.ofList ((Text.encode ("/" ++ "/".intercalate place)).flatMap addressByte)

/-- A client with the requirement that is given for it; a directory becomes a reference to it. -/
def withRequirement (files : System) (c : Client) : Option String → Answer Client
  | none => .ok c
  | some text =>
    if text.isEmpty then .ok c
    else do
      let path : Path := .ofText text
      if ← files.isDirectory path then
        let place ← files.locate path
        return { c with requirement := some (c.distribution ++ " @ " ++ fileAddress place) }
      else return { c with requirement := some text }

end Client

end ServiceCli.Package
