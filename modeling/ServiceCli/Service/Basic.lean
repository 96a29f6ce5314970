import ServiceCli.Data.Value
import ServiceCli.Shape.Ref
import ServiceCli.Shape.TypeTree

set_option autoImplicit false
set_option relaxedAutoImplicit false

namespace ServiceCli.Service

open ServiceCli.Data ServiceCli.Shape

/-- The structure that an operation takes or gives: its name and its members. -/
structure Payload where
  shape : String
  members : List Field
  deriving Repr

/-- One operation of a service; it becomes one command. -/
structure Operation where
  name : String
  route : String
  method : String
  documentation : String
  traits : Entries
  input : Option Payload
  output : Option Payload
  authExempt : Bool
  deriving Repr

namespace Operation

/-- The members of the input, none without an input. -/
def inputFields (op : Operation) : List Field :=
  match op.input with
  | some payload => payload.members
  | none => []

end Operation

/-- A service with its operations in declared order. -/
structure Service where
  ref : Ref
  version : Option String
  documentation : String
  requiresAuth : Bool
  operations : List Operation
  deriving Repr

namespace Service

def name (s : Service) : String := s.ref.name

end Service

/-- Decides which operations need a bearer token. -/
abbrev AuthPolicy := Operation → Bool

/-- No operation needs a token. -/
def noAuth : AuthPolicy := fun _ => false

/-- Every operation needs a token. -/
def alwaysAuth : AuthPolicy := fun _ => true

/-- Where the service asks for bearer tokens, every operation needs one that is not exempt. -/
def bearerAuth (s : Service) : AuthPolicy := fun op => s.requiresAuth && !op.authExempt

end ServiceCli.Service
