import ServiceCli.Path.AccessPath
import ServiceCli.Shape.TypeTree

/-!
The statements that convert given parameters: every path of a blob becomes the bytes of the file or
an open stream, every document becomes JSON text. Each step into a container is guarded, so that a
value of the wrong kind is left alone.
-/

set_option autoImplicit false
set_option relaxedAutoImplicit false

namespace ServiceCli.Conversion

open ServiceCli.Path ServiceCli.Shape

/-- An expression that reads a value without failing: a member that may be absent, or a place that
a loop has reached. -/
inductive Probe where
  | lookup (parent : AccessPath) (name : String)
  | place (path : AccessPath)
  deriving DecidableEq, Repr

/-- A converting statement. -/
inductive Statement where
  | convertBlob (probe : Probe) (target : AccessPath) (streaming : Bool)
  | convertDocument (probe : Probe) (target : AccessPath)
  | inStructure (probe : Probe) (body : List Statement)
  | overList (probe : Probe) (target : AccessPath) (body : List Statement)
  | overMap (probe : Probe) (target : AccessPath) (body : List Statement)
  deriving Repr

mutual
/-- The statements that convert the value of a type at a place. A primitive needs none. -/
def ofType (target : AccessPath) (probe : Probe) : TypeTree → List Statement
  | .primitive _ => []
  | .blob streaming => [.convertBlob probe target streaming]
  | .document => [.convertDocument probe target]
  | .structure members => [.inStructure probe (ofFields target members)]
  | .list member => [.overList probe target (ofType target.element (.place target.element) member)]
  | .map _ ⟨_, value, _, _, _⟩ =>
    [.overMap probe target (ofType target.mapValue (.place target.mapValue) value)]
/-- The statements that convert the members of the mapping at a place, those without a blob or a
document left out. -/
def ofFields (root : AccessPath) : List Field → List Statement
  | [] => []
  | ⟨name, type, _, _, _⟩ :: rest =>
    (if type.containsSpecial then ofType (root.key name) (.lookup root name) type else [])
      ++ ofFields root rest
end

end ServiceCli.Conversion
