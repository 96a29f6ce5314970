import ServiceCli.Failure
import ServiceCli.Shape.Ref
import ServiceCli.Text.Utf8

set_option autoImplicit false
set_option relaxedAutoImplicit false

namespace ServiceCli.Shape

open ServiceCli.Data

/-- The shapes of a model, under their ids. -/
abbrev Graph := Entries

def preludeScope : String := "smithy.api"

def documentationTrait : String := "smithy.api#documentation"

def requiredTrait : String := "smithy.api#required"

/-- The trait of a blob that is handed over as an open file. -/
def streamingTrait : String := "smithy.api#streaming"

/-- The trait of a member that is sent as the body of a request. -/
def payloadTrait : String := "smithy.api#httpPayload"

def occursIn (needle : List Char) : List Char → Bool
  | [] => needle.isEmpty
  | c :: rest => needle.isPrefixOf (c :: rest) || occursIn needle rest

def entriesOf : Value → Outcome Entries
  | .map entries => .ok entries
  | _ => faulty .absentOperation

/-- The value under a name of a value that must be a mapping; null where there is none. -/
def fieldOf (v : Value) (name : String) : Outcome Value := do
  return Value.field (← entriesOf v) name

/-- Whether a name occurs in a collection: among the keys of a mapping, the items of a list, or as
a part of a text. -/
def mentions (name : String) : Value → Outcome Bool
  | .map entries => .ok (Entries.get? entries name).isSome
  | .list items => .ok (items.any (· == .str name))
  | .tuple items => .ok (items.any (· == .str name))
  | .set items => .ok (items.any (· == .str name))
  | .str s => .ok (occursIn name.toList s.toList)
  | _ => faulty .wrongKind

/-- A value where none was given counts as an empty mapping. -/
def orEmpty (v : Value) : Value := v.orElse (.map [])

def traitsOf (entries : Entries) : Value := orEmpty (Value.field entries "traits")

/-- A field that holds text. Bytes are accepted when they encode text. -/
def textOf : Value → Outcome String
  | .str s => .ok s
  | .bytes bs => match Text.decode bs with
    | .ok s => .ok s
    | .error _ => faulty .wrongFieldKind
  | _ => faulty .wrongFieldKind

def textOf? : Value → Outcome (Option String)
  | .null => .ok none
  | v => do return some (← textOf v)

/-- The text of a documentation trait; any empty value stands for no documentation. -/
def documentationOf (traits : Value) : Outcome Value := do
  return (← fieldOf traits documentationTrait).orElse (.str "")

/-- The reference that a given target denotes. -/
def refOf : Value → Outcome Ref
  | .str s => match Ref.parse? s with
    | some ref => .ok ref
    | none => refuse (.invalidId s)
  | .bytes _ => faulty .wrongKind
  | _ => faulty .absentOperation

/-- The target of a value that may be a mapping; null where there is none. -/
def targetOf : Value → Value
  | .map entries => Value.field entries "target"
  | _ => .null

end ServiceCli.Shape
