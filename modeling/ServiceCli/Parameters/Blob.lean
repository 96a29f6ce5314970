import ServiceCli.Files.Text
import ServiceCli.Json.Printer

set_option autoImplicit false
set_option relaxedAutoImplicit false

namespace ServiceCli.Parameters

open ServiceCli.Data ServiceCli.Files

/-- The path that the value of a blob gives, when there is a file; a value that is no text gives
the path of its text. -/
def blobPath (files : System) (given : Value) (label : String) : Outcome Path :=
  let path : Path := .ofText (Literal.text given)
  match files.isFile path with
  | .ok true => .ok path
  | .ok false => .error (.blobNotFound label (Literal.text given))
  | .error e => .error e.failure

def readBlob (files : System) (given : Value) (label : String) : Outcome Value := do
  let path ← blobPath files given label
  match files.readBytes path with
  | .ok bytes => return .bytes bytes
  | .error e => .error e.failure

def openBlob (files : System) (given : Value) (label : String) : Outcome Value := do
  return .stream (← blobPath files given label).text 0 false

def serialize (v : Value) : Outcome Value :=
  match Json.print? Json.compact v with
  | some text => .ok (.str text)
  | none => faulty .wrongKind

mutual
/-- A value with every stream in its lists and mappings closed. -/
def closeStreams : Value → Value
  | .stream path position _ => .stream path position true
  | .list items => .list (closeAll items)
  | .map entries => .map (closeEntries entries)
  | v => v
def closeAll : List Value → List Value
  | [] => []
  | v :: vs => closeStreams v :: closeAll vs
def closeEntries : List (Key × Value) → List (Key × Value)
  | [] => []
  | (k, v) :: es => (k, closeStreams v) :: closeEntries es
end

/-- The next bytes of a stream, at most so many, or all that are left; and the stream after them. -/
def readStream (files : System) (v : Value) (size : Option Nat) : Outcome (List UInt8 × Value) :=
  match v with
  | .stream _ _ true => faulty .malformedValue
  | .stream path position false =>
    match files.readBytes (.ofText path) with
    | .ok bytes =>
      let left := bytes.drop position
      let data := left.take (size.getD left.length)
      .ok (data, .stream path (position + data.length) false)
    | .error e => .error e.failure
  | _ => faulty .absentOperation

end ServiceCli.Parameters
