import ServiceCli.Json.Quoted
import ServiceCli.Path.FieldPath

/-!
Access paths: where a value lies in a tree of parameters, in the form that generated code reads and
writes. A member is a quoted key, an element the loop variable of its list, a map value the loop
variable of its map; variables are numbered by the loops around them, so no two nested loops share
one.
-/

set_option autoImplicit false
set_option relaxedAutoImplicit false

namespace ServiceCli.Path

/-- An access path: the variable that holds the tree; the subscripts that lead from it to the place,
outermost first; the same place as a field path; and the number of loops entered on the way. -/
structure AccessPath where
  root : String
  subscripts : List String
  label : FieldPath
  depth : Nat
  deriving DecidableEq, Repr

namespace AccessPath

/-- The variable of a loop over a list inside `n` other loops. -/
def indexVariable (n : Nat) : String := s!"i{n}"

/-- The variable of a loop over a map inside `n` other loops. -/
def keyVariable (n : Nat) : String := s!"k{n}"

def ofRoot (root : String) : AccessPath := ⟨root, [], [], 0⟩

def expression (p : AccessPath) : String :=
  p.subscripts.foldl (fun text s => text ++ "[" ++ s ++ "]") p.root

def loopVariable (p : AccessPath) : String := indexVariable p.depth

def mapVariable (p : AccessPath) : String := keyVariable p.depth

def key (p : AccessPath) (name : String) : AccessPath :=
  ⟨p.root, p.subscripts ++ [Json.quote name], p.label.member name, p.depth⟩

/-- The path of the element that the loop over the list at a path is at. -/
def element (p : AccessPath) : AccessPath :=
  ⟨p.root, p.subscripts ++ [p.loopVariable], p.label.element, p.depth + 1⟩

def mapValue (p : AccessPath) : AccessPath :=
  ⟨p.root, p.subscripts ++ [p.mapVariable], p.label.value, p.depth + 1⟩

/-- The expression that reads a member without failing where it is absent. -/
def lookup (p : AccessPath) (name : String) : String :=
  p.expression ++ ".get(" ++ Json.quote name ++ ")"

end AccessPath

end ServiceCli.Path
