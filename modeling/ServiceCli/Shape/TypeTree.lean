set_option autoImplicit false
set_option relaxedAutoImplicit false

/-!
Type trees: what a shape unfolds to. A tree is finite, its leaves are primitive types, blobs and
documents, and each member of a structure carries its own documentation and marks.
-/

namespace ServiceCli.Shape

mutual
/-- The type of a value. A primitive is known by its lower-case name; a streaming blob is handed
over as an open file; the key and the value of a map are fields, so that they can be documented. -/
inductive TypeTree where
  | primitive (name : String)
  | blob (streaming : Bool)
  | list (member : TypeTree)
  | map (key value : Field)
  | structure (members : List Field)
  | document
  deriving Repr
/-- A named place for a value. A payload is sent as the body of a request. -/
structure Field where
  name : String
  type : TypeTree
  required : Bool
  documentation : String
  isPayload : Bool
  deriving Repr
end

namespace TypeTree

def kind : TypeTree → String
  | .primitive _ => "primitive"
  | .blob _ => "blob"
  | .list _ => "list"
  | .map _ _ => "map"
  | .structure _ => "structure"
  | .document => "document"

/-- The short name in documentation: of a primitive its own, of any other type its kind. -/
def label : TypeTree → String
  | .primitive name => name
  | t => t.kind

/-- Blobs, lists, maps and structures are described by more than a label. -/
def isCompound : TypeTree → Bool
  | .primitive _ => false
  | .document => false
  | _ => true

mutual
def containsSpecial : TypeTree → Bool
  | .primitive _ => false
  | .blob _ => true
  | .document => true
  | .list member => containsSpecial member
  -- the key of a map holds text
  | .map _ ⟨_, value, _, _, _⟩ => containsSpecial value
  | .structure members => anySpecial members
/-- Whether a blob or a document can be reached through one of the fields. -/
def anySpecial : List Field → Bool
  | [] => false
  | ⟨_, type, _, _, _⟩ :: rest => containsSpecial type || anySpecial rest
end

mutual
def containsStream : TypeTree → Bool
  | .blob streaming => streaming
  | .list member => containsStream member
  | .map _ ⟨_, value, _, _, _⟩ => containsStream value
  | .structure members => anyStream members
  | _ => false
/-- Whether a streaming blob can be reached through one of the fields. -/
def anyStream : List Field → Bool
  | [] => false
  | ⟨_, type, _, _, _⟩ :: rest => containsStream type || anyStream rest
end

def member? : TypeTree → String → Option Field
  | .structure members, name => members.find? fun f => f.name == name
  | _, _ => none

end TypeTree

end ServiceCli.Shape
