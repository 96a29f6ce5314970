import ServiceCli.Shape.Model
import ServiceCli.Shape.TypeTree
import ServiceCli.Text.LetterCase

/-!
Unfolding a reference into its type tree. The references from the root to the current shape form a
chain; a reference that is met again on its own chain has no finite unfolding and is refused with
the part of the chain that leads back to it.
-/

set_option autoImplicit false
set_option relaxedAutoImplicit false

namespace ServiceCli.Shape

open ServiceCli.Data

def preludeType (name : String) : TypeTree :=
  let name := Text.lower name
  if name = "blob" then .blob false
  else if name = "document" then .document
  else .primitive name

/-- The chain from the first visit of a reference on. -/
def loopFrom (ref : Ref) (chain : List Ref) : List Ref := chain.dropWhile (· != ref)

def partOf (shape : Entries) (name id : String) : Outcome Value :=
  match Value.field shape name with
  | .map entries => .ok (.map entries)
  | _ => refuse (.missingPart id name)

def memberRef (member : Value) (owner : String) : Outcome Ref :=
  let target := targetOf member
  if target.isTruthy then refOf target else refuse (.memberWithoutTarget owner)

def nameOf : Key → Outcome String
  | .atom a => textOf (.atom a)
  | _ => faulty .wrongFieldKind

/-- The field of a structure member, a map key or a map value, with the traits of the member
itself; `unfold` gives the type of a reference. -/
def fieldFor (unfold : Ref → Outcome TypeTree) (owner : String) (name : Key) (member : Value) :
    Outcome Field := do
  let traits := orEmpty (← fieldOf member "traits")
  let type ← unfold (← memberRef member owner)
  let required ← mentions requiredTrait traits
  let documentation ← documentationOf traits
  let isPayload ← mentions payloadTrait traits
  return ⟨← nameOf name, type, required, ← textOf documentation, isPayload⟩

/-- The fields of the members of a structure, in declaration order. -/
def fieldsFor (unfold : Ref → Outcome TypeTree) (owner : String) :
    List (Key × Value) → Outcome (List Field)
  | [] => .ok []
  | (name, member) :: rest => do
    let field ← fieldFor unfold owner name member
    let fields ← fieldsFor unfold owner rest
    return field :: fields

/-- The type of a shape that is present, from its kind; `unfold` gives the type of a target. -/
def unfoldShape (unfold : Ref → Outcome TypeTree) (id : String) (shape : Entries) :
    Outcome TypeTree :=
  match Value.field shape "type" with
  | .str "blob" => do return .blob (← mentions streamingTrait (traitsOf shape))
  | .str "list" => do
    let member ← partOf shape "member" id
    return .list (← unfold (← memberRef member id))
  | .str "set" => do
    let member ← partOf shape "member" id
    return .list (← unfold (← memberRef member id))
  | .str "map" => do
    let key ← partOf shape "key" id
    let value ← partOf shape "value" id
    let key ← fieldFor unfold id (.str "key") key
    let value ← fieldFor unfold id (.str "value") value
    return .map key value
  | .str "structure" => do
    let members ← entriesOf (orEmpty (Value.field shape "members"))
    return .structure (← fieldsFor unfold id members)
  | .str "document" => .ok .document
  | kind => refuse (.unsupported kind id)

/-- Unfolds a reference whose ancestors are on the chain. Each step makes the chain longer by the
id of another shape of the graph, so a fuel above the number of shapes is never used up. -/
def resolveWith (graph : Graph) : Nat → List Ref → Ref → Outcome TypeTree
  | 0, _, _ => faulty .endlessNesting
  | fuel + 1, chain, ref =>
    if ref.scope = preludeScope then .ok (preludeType ref.name)
    else match graph.get? ref.id with
      | some (.map shape) =>
        if ref ∈ chain then
          refuse (.cyclic ((loopFrom ref chain).map Ref.id ++ [ref.id]))
        else unfoldShape (resolveWith graph fuel (chain ++ [ref])) ref.id shape
      | _ => refuse (.notFound ref.id)

/-- The type tree of a reference below a chain of ancestors. -/
def resolveFrom (graph : Graph) (chain : List Ref) (ref : Ref) : Outcome TypeTree :=
  resolveWith graph (graph.length + 2) chain ref

def resolve (graph : Graph) (ref : Ref) : Outcome TypeTree := resolveFrom graph [] ref

/-- The members of a reference that must denote a structure. -/
def resolveStructure (graph : Graph) (ref : Ref) : Outcome (List Field) := do
  match graph.get? ref.id with
  | some (.map shape) =>
    let kind := Value.field shape "type"
    if kind != .str "structure" then refuse (.notStructure ref.id kind)
  | _ => pure ()
  match ← resolve graph ref with
  | .structure members => return members
  | other => refuse (.notStructure ref.id (.str other.kind))

end ServiceCli.Shape
