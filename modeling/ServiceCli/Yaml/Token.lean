import ServiceCli.Failure

set_option autoImplicit false
set_option relaxedAutoImplicit false

namespace ServiceCli.Yaml

/-- A text is malformed when it breaks the grammar, uses what it does not define, or asks for a
value that documents do not hold; it is faulty when a value in it cannot be made. -/
inductive Refusal where
  | malformed
  | fault (cause : Fault)
  deriving DecidableEq, Repr

abbrev Reading (α : Type) := Except Refusal α

def malformed {α : Type} : Reading α := .error .malformed

def faulted {α : Type} (cause : Fault) : Reading α := .error (.fault cause)

/-- A condition that a well-formed text meets. -/
def require (condition : Bool) : Reading Unit := if condition then .ok () else malformed

/-- A directive before a document. -/
inductive Directive where
  | version (major : Nat)
  | handle (name expansion : String)
  | unknown
  deriving DecidableEq, Repr

/-- A token. `halt` stands where the text cannot be divided further. -/
inductive Token where
  | directive (content : Directive)
  | documentStart
  | documentEnd
  | blockSequenceStart
  | blockMappingStart
  | blockEnd
  | flowSequenceStart
  | flowSequenceEnd
  | flowMappingStart
  | flowMappingEnd
  | blockEntry
  | flowEntry
  | key
  | value
  | alias (name : String)
  | anchor (name : String)
  | tag (handle : Option String) (suffix : String)
  | scalar (text : String) (plain : Bool)
  | streamEnd
  | halt (cause : Refusal)
  deriving DecidableEq, Repr

end ServiceCli.Yaml
