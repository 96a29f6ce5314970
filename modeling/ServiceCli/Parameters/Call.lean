import ServiceCli.Failure

set_option autoImplicit false
set_option relaxedAutoImplicit false

namespace ServiceCli.Parameters

open ServiceCli.Data

/-- How an input is built. -/
inductive InputForm where
  | fromMapping
  | byName
  deriving DecidableEq, Repr

/-- A built input. -/
structure BuiltInput where
  form : InputForm
  members : Entries
  deriving Repr

/-- Whether a parameter can be given under its name; `self` names the input itself. -/
def isNameable : Key → Bool
  | .str s => s != "self"
  | _ => false

def buildInput (form : InputForm) (parameters : Entries) : Outcome BuiltInput :=
  match form with
  | .fromMapping => .ok ⟨form, parameters⟩
  | .byName =>
    if parameters.all fun e => isNameable e.1 then .ok ⟨form, parameters⟩ else faulty .wrongKind

end ServiceCli.Parameters
