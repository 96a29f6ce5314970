import ServiceCli.Command.Flag
import ServiceCli.Path.FieldPath

/-!
The paths of every required member that can be reached from an input, in depth-first order: a
member before its own members, each level in declaration order. A map key is not entered.
-/

set_option autoImplicit false
set_option relaxedAutoImplicit false

namespace ServiceCli.Command

open ServiceCli.Path ServiceCli.Shape

mutual
def requiredWithin (path : FieldPath) : TypeTree → List FieldPath
  | .structure members => requiredAmong path members
  | .list member => requiredWithin path.element member
  | .map _ ⟨_, value, _, _, _⟩ => requiredWithin path.value value
  | _ => []
def requiredAmong (path : FieldPath) : List Field → List FieldPath
  | [] => []
  | ⟨name, type, required, _, _⟩ :: rest =>
    (if required then [path.member name] else [])
      ++ requiredWithin (path.member name) type
      ++ requiredAmong path rest
end

/-- The required members of an input. -/
def requiredPaths (fields : List Field) : List FieldPath := requiredAmong [] fields

/-- The texts of the required paths of a command; a token is required last. -/
def requiredTexts (fields : List Field) (needsToken : Bool) : List String :=
  (requiredPaths fields).map FieldPath.text ++ (if needsToken then [tokenName] else [])

end ServiceCli.Command
