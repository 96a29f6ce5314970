import ServiceCli.Console.Pictogram
import ServiceCli.Console.Wrap
import ServiceCli.Json.Printer
import ServiceCli.Report.Plain

set_option autoImplicit false
set_option relaxedAutoImplicit false

namespace ServiceCli.Report

open ServiceCli.Data

def shownForm : Json.Form := ⟨some 2, false, true⟩

/-- The JSON of a value. A mapping whose keys are no texts and stand for none is a fault. -/
def json (v : Value) : Outcome String :=
  match Json.print? shownForm v with
  | some text => .ok text
  | none => faulty .wrongKind

/-- What is printed for the result of a client call on a console of a width; nothing for no
result. -/
def ofResult (width : Nat) (result : Value) : Outcome String :=
  match result with
  | .null => .ok ""
  | result => do
    match ← plain result with
    | .str s => return Console.printed width (Console.withPictures s.toList)
    | v =>
      let text ← json v
      return if width = 0 then "" else text ++ "\n"

end ServiceCli.Report
