import ServiceCli.Service.Basic
import ServiceCli.Shape.Resolve

set_option autoImplicit false
set_option relaxedAutoImplicit false

namespace ServiceCli.Service

open ServiceCli.Data ServiceCli.Shape

/-- The trait with the route and the method of an operation. -/
def httpTrait : String := "smithy.api#http"

/-- The trait with the authentication schemes of an operation. -/
def authTrait : String := "smithy.api#auth"

def bearerTrait : String := "smithy.api#httpBearerAuth"

def asksForBearer (shape : Value) : Outcome Bool := do
  mentions bearerTrait (orEmpty (← fieldOf shape "traits"))

/-- An operation is exempt when it lists its schemes and lists none. -/
def isExempt (traits : Value) : Outcome Bool := do
  match ← fieldOf traits authTrait with
  | .list [] => return true
  | _ => return false

/-- The reference of an operation's input or output, unless it is absent or the unit shape. -/
def payloadRef (shape : Entries) (part : String) : Outcome (Option Ref) :=
  let target := targetOf (Value.field shape part)
  if !target.isTruthy || target == .str "smithy.api#Unit" then .ok none
  else do return some (← refOf target)

/-- The structure behind a reference to an input or an output. -/
def payloadOf (graph : Graph) : Option Ref → Outcome (Option Payload)
  | none => .ok none
  | some ref => do return some ⟨ref.name, ← resolveStructure graph ref⟩

/-- The route of an operation, when its traits give one. -/
def routeOf (http : Value) : Option (Entries × Value) :=
  match http with
  | .map entries =>
    let uri := Value.field entries "uri"
    if uri.isTruthy then some (entries, uri) else none
  | _ => none

def hasTextKeys (entries : Entries) : Bool := entries.all fun e => (nameOf e.1).toOption.isSome

def extractOperation (graph : Graph) (ref : Ref) : Outcome Operation := do
  let some (.map shape) := graph.get? ref.id | refuse (.notFound ref.id)
  let traits := traitsOf shape
  let http ← fieldOf traits httpTrait
  let some (http, uri) := routeOf http | refuse (.operationWithoutRoute ref.id)
  let inputRef ← payloadRef shape "input"
  let outputRef ← payloadRef shape "output"
  let method := Text.upper (Literal.text ((Value.field http "method").orElse (.str "POST")))
  let documentation ← documentationOf traits
  let entries ← entriesOf traits
  let input ← payloadOf graph inputRef
  let output ← payloadOf graph outputRef
  let authExempt ← isExempt traits
  let route ← textOf uri
  let documentation ← textOf documentation
  if !hasTextKeys entries then faulty .wrongFieldKind
  return ⟨ref.name, route, method, documentation, entries, input, output, authExempt⟩

def listedOperations : Value → Outcome (List Value)
  | .list items => .ok items
  | .tuple items => .ok items
  -- keys, characters and bytes have no target, so nothing else about them matters
  | .set items => .ok (items.map fun _ => .null)
  | .map entries => .ok (entries.map fun _ => .null)
  | .str s => .ok (s.toList.map fun _ => .null)
  | .bytes bs => .ok (bs.map fun _ => .null)
  | _ => faulty .wrongKind

def extractOperations (graph : Graph) (service : String) : List Value → Outcome (List Operation)
  | [] => .ok []
  | entry :: rest => do
    let target := targetOf entry
    if !target.isTruthy then refuse (.operationWithoutTarget service)
    let op ← extractOperation graph (← refOf target)
    let ops ← extractOperations graph service rest
    return op :: ops

/-- The shapes of a model; none where there are none. -/
def shapesOf (model : Value) : Outcome Value := do return orEmpty (← fieldOf model "shapes")

/-- A service shape whose operations are read and whose description is not yet. -/
structure Listing where
  ref : Ref
  shape : Entries
  requiresAuth : Bool
  operations : List Operation
  deriving Repr

def listingOf (model : Value) (id : String) : Outcome Listing := do
  let shapes ← shapesOf model
  let ref ← refOf (.str id)
  let graph ← entriesOf shapes
  let some (.map shape) := Entries.get? graph id | refuse (.notFound id)
  let kind := Value.field shape "type"
  if kind != .str "service" then refuse (.notService id kind)
  let requiresAuth ← asksForBearer (.map shape)
  let listed ← listedOperations ((Value.field shape "operations").orElse (.list []))
  let operations ← extractOperations graph id listed
  return ⟨ref, shape, requiresAuth, operations⟩

def Listing.service (l : Listing) : Outcome Service := do
  let documentation ← documentationOf (traitsOf l.shape)
  let version ← textOf? (Value.field l.shape "version")
  let documentation ← textOf documentation
  return ⟨l.ref, version, documentation, l.requiresAuth, l.operations⟩

def extract (model : Value) (id : String) : Outcome Service := do (← listingOf model id).service

def insertSorted (s : String) : List String → List String
  | [] => [s]
  | t :: rest => if t < s then t :: insertSorted s rest else s :: t :: rest

/-- Texts in ascending order of code points. -/
def sortTexts (ss : List String) : List String := ss.foldr insertSorted []

def isService : Value → Bool
  | .map shape => Value.field shape "type" == .str "service"
  | _ => false

/-- The texts among keys, when all are texts or there is at most one. -/
def keyTexts : List Key → Outcome (List String)
  | [] => .ok []
  | .str s :: rest => do return s :: (← keyTexts rest)
  | _ :: _ => faulty .wrongKind

def onlyService (model : Value) : Outcome String := do
  let entries ← entriesOf model
  let shapes ← match Entries.get? entries "shapes" with
    | some shapes => entriesOf shapes
    | none => pure []
  let ids ← keyTexts ((shapes.filter fun (_, shape) => isService shape).map (·.1))
  match sortTexts ids with
  | [id] => return id
  | [] => .error (.usage .noService)
  | ids => .error (.usage (.severalServices ids))

end ServiceCli.Service
