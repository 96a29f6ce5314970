import ServiceCli.Command.Flag

/-!
Outlines: the documentation of an input, one line for each member at every depth. A line is kept as
its indentation, what it names and its documentation; members of the input itself are written as
flags.
-/

set_option autoImplicit false
set_option relaxedAutoImplicit false

namespace ServiceCli.Command

open ServiceCli.Shape

/-- A line of an outline. -/
structure OutlineLine where
  indent : Nat
  head : String
  documentation : String
  deriving DecidableEq, Repr

/-- What follows the head of a line: the documentation after a colon, if there is any. -/
def tailOf (documentation : String) : String :=
  if documentation.isEmpty then "" else " : " ++ documentation

namespace OutlineLine

def text (l : OutlineLine) : String := "".pushn ' ' l.indent ++ l.head ++ tailOf l.documentation

end OutlineLine

def mark (required : Bool) : String := if required then "(required)" else "(optional)"

/-- What follows the placeholder of a blob that is streamed. -/
def streamMark (streaming : Bool) : String := if streaming then " (streaming)" else ""

/-- A name with its type, where the type is described by more than the lines below it. -/
def typedHead (name : String) : TypeTree → String
  | .blob streaming => name ++ " <file-path>" ++ streamMark streaming
  | .list member => if member.isCompound then name else name ++ " [<" ++ member.label ++ ">]"
  | .structure _ => name
  | .map _ _ => name
  | type => name ++ " <" ++ type.label ++ ">"

mutual
/-- The lines below the line of a type. -/
def outlineBelow (indent : Nat) : TypeTree → List OutlineLine
  | .structure members => outlineFields "" indent members
  | .list (.structure members) => outlineFields "" indent members
  | .list (.blob streaming) => [⟨indent, typedHead "item" (.blob streaming), ""⟩]
  | .list (.list member) =>
    ⟨indent, typedHead "item" (.list member), ""⟩ :: outlineBelow (indent + 4) (.list member)
  | .list (.map key value) =>
    ⟨indent, "item", ""⟩ :: outlineBelow (indent + 4) (.map key value)
  | .map ⟨_, key, _, keyDocumentation, _⟩ ⟨_, value, required, documentation, _⟩ =>
    ⟨indent, "key <" ++ key.label ++ ">", keyDocumentation⟩ ::
      if value.isCompound then
        ⟨indent, "value " ++ mark required, documentation⟩ :: outlineBelow (indent + 4) value
      else [⟨indent, "value <" ++ value.label ++ ">", documentation⟩]
  | _ => []
/-- The lines of fields and below them; `lead` stands before the name of each. -/
def outlineFields (lead : String) (indent : Nat) : List Field → List OutlineLine
  | [] => []
  | ⟨name, type, required, documentation, _⟩ :: rest =>
    ⟨indent, lead ++ typedHead name type ++ " " ++ mark required, documentation⟩ ::
      outlineBelow (indent + 4) type ++ outlineFields lead indent rest
end

def tokenLine (indent : Nat) : OutlineLine :=
  ⟨indent, tokenFlag.option ++ " <string> (required)", tokenFlag.description⟩

def outlineOf (fields : List Field) (needsToken : Bool) (indent : Nat) : List OutlineLine :=
  outlineFields "--" indent fields ++ (if needsToken then [tokenLine indent] else [])

end ServiceCli.Command
