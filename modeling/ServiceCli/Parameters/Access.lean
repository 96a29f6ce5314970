import ServiceCli.Failure

set_option autoImplicit false
set_option relaxedAutoImplicit false

namespace ServiceCli.Parameters

open ServiceCli.Data

/-- A step into a container. -/
inductive Step where
  | key (name : String)
  | index (i : Int)
  deriving DecidableEq, Repr

/-- The position in a list of some length that an index means. -/
def position (length : Nat) (i : Int) : Nat :=
  if i < 0 then if i + length < 0 then length else (i + length).toNat else i.toNat

def inner (v : Value) : Step → Outcome Value
  | .key name => match v with
    | .map entries => match Entries.get? entries name with
      | some w => .ok w
      | none => faulty .absentKey
    | _ => faulty .wrongKind
  | .index i => match v with
    | .list items => match items[position items.length i]? with
      | some w => .ok w
      | none => faulty .absentIndex
    | .map _ => faulty .absentKey
    | _ => faulty .wrongKind

def replaceInner (v : Value) (s : Step) (new : Value) : Value :=
  match v, s with
  | .map entries, .key name => .map (Entries.put entries (.str name) new)
  | .list items, .index i => .list (items.set (position items.length i) new)
  | v, _ => v

def changeAt {α : Type} (change : Value → Outcome (α × Value)) :
    List Step → Value → Outcome (α × Value)
  | [], v => change v
  | s :: rest, v => do
    let (result, changed) ← changeAt change rest (← inner v s)
    return (result, replaceInner v s changed)

end ServiceCli.Parameters
