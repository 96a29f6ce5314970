set_option autoImplicit false
set_option relaxedAutoImplicit false

/-!
References to shapes: `scope#Name`. The scope ends at the first `#`; a name holds no `$`, which
would mark a member.
-/

namespace ServiceCli.Shape

/-- A reference to a shape by its scope and its name. -/
structure Ref where
  scope : String
  name : String
  deriving DecidableEq, Repr, Inhabited

namespace Ref

def id (r : Ref) : String := r.scope ++ "#" ++ r.name

/-- The two sides of the first `#`, if there is one. -/
def splitHash (cs : List Char) : Option (List Char × List Char) :=
  match cs.dropWhile (· != '#') with
  | [] => none
  | _ :: name => some (cs.takeWhile (· != '#'), name)

def parse? (id : String) : Option Ref :=
  match splitHash id.toList with
  | some (scope, name) =>
    if scope.isEmpty || name.isEmpty || name.contains '$' then none
    else some ⟨String.ofList scope, String.ofList name⟩
  | none => none

end Ref

end ServiceCli.Shape
