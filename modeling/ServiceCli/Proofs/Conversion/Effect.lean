import ServiceCli.Conversion.Statement
import ServiceCli.Proofs.Conversion.Converted
import ServiceCli.Proofs.Path.Steps
import ServiceCli.Proofs.Script.Meaning
import ServiceCli.Proofs.Shape.MemberName

/-!
The commands of a script that converting statements are. An access path is a place whose subscripts
are the names of members and the variables of the loops around it.

What the commands of converting statements do. While they run, a place leads to a value in the tree
of parameters; the commands of a type replace that value by the converted one and leave the
variables of the loops around the place.
-/

set_option autoImplicit false
set_option relaxedAutoImplicit false

namespace ServiceCli.Conversion

open ServiceCli.Path ServiceCli.Path.AccessPath ServiceCli.Script

/-- The subscripts of steps that are inside `n` loops. -/
def subscriptsFrom (n : Nat) : FieldPath → List Subscript
  | [] => []
  | .member name :: rest => .text name :: subscriptsFrom n rest
  | .element :: rest => .held (indexVariable n) :: subscriptsFrom (n + 1) rest
  | .value :: rest => .held (keyVariable n) :: subscriptsFrom (n + 1) rest

def placeOf (p : AccessPath) : Place := ⟨p.root, subscriptsFrom 0 p.label⟩

def readerOf : Probe → Reader
  | .lookup parent name => .lookup (placeOf parent) name
  | .place path => .place (placeOf path)

def blobCall (target : AccessPath) (streaming : Bool) : Call :=
  if streaming then .openBlob (placeOf target) target.label.text
  else .readBlob (placeOf target) target.label.text

mutual
def commandOf : Statement → Command
  | .convertBlob probe target streaming =>
    .block (.when [.given (readerOf probe)]) [.store (placeOf target) (blobCall target streaming)]
  | .convertDocument probe target =>
    .block (.when [.given (readerOf probe), .notKind (.place (placeOf target)) .text])
      [.store (placeOf target) (.serialize (placeOf target))]
  | .inStructure probe body =>
    .block (.when [.isKind (readerOf probe) .mapping]) (commandsOf body)
  | .overList probe target body =>
    .block (.when [.isKind (readerOf probe) .list])
      [.block (.overIndices target.loopVariable (placeOf target)) (commandsOf body)]
  | .overMap probe target body =>
    .block (.when [.isKind (readerOf probe) .mapping])
      [.block (.overMembers target.mapVariable (placeOf target)) (commandsOf body)]
def commandsOf : List Statement → List Command
  | [] => []
  | s :: rest => commandOf s :: commandsOf rest
end

theorem commandsOf_append (first rest : List Statement) :
    commandsOf (first ++ rest) = commandsOf first ++ commandsOf rest := by
  induction first with
  | nil => rfl
  | cons s first ih => rw [List.cons_append, commandsOf, commandsOf, ih, List.cons_append]

theorem subscriptsFrom_append (n : Nat) (p q : FieldPath) :
    subscriptsFrom n (p ++ q) = subscriptsFrom n p ++ subscriptsFrom (n + p.countP isLoop) q := by
  induction p generalizing n with
  | nil => rfl
  | cons s p ih =>
    cases s with
    | member name => simp [subscriptsFrom, ih, isLoop]
    | element =>
      rw [List.countP_cons_of_pos rfl]
      simp [subscriptsFrom, ih, Nat.add_assoc, Nat.add_comm 1]
    | value =>
      rw [List.countP_cons_of_pos rfl]
      simp [subscriptsFrom, ih, Nat.add_assoc, Nat.add_comm 1]

theorem placeOf_key (p : AccessPath) (name : String) :
    (placeOf (p.key name)).subscripts = (placeOf p).subscripts ++ [.text name] := by
  simp [placeOf, AccessPath.key, FieldPath.member, subscriptsFrom_append, subscriptsFrom]

theorem placeOf_element {p : AccessPath} (inStep : p.InStep) :
    (placeOf p.element).subscripts = (placeOf p).subscripts ++ [.held p.loopVariable] := by
  simp [placeOf, AccessPath.element, FieldPath.element, subscriptsFrom_append, subscriptsFrom,
    loopVariable, inStep.depth]

theorem placeOf_mapValue {p : AccessPath} (inStep : p.InStep) :
    (placeOf p.mapValue).subscripts = (placeOf p).subscripts ++ [.held p.mapVariable] := by
  simp [placeOf, AccessPath.mapValue, FieldPath.value, subscriptsFrom_append, subscriptsFrom,
    mapVariable, inStep.depth]

theorem held_subscriptsFrom {n : Nat} {p : FieldPath} {name : String}
    (member : Subscript.held name ∈ subscriptsFrom n p) :
    ∃ j < n + p.countP isLoop, name = indexVariable j ∨ name = keyVariable j := by
  induction p generalizing n with
  | nil => exact absurd member (by simp [subscriptsFrom])
  | cons s p ih =>
    cases s with
    | member other =>
      obtain ⟨j, small, which⟩ := ih (by simpa [subscriptsFrom] using member)
      exact ⟨j, by simpa [isLoop] using small, which⟩
    | element =>
      rcases List.mem_cons.mp member with first | later
      · exact ⟨n, by simp [isLoop], .inl (Subscript.held.inj first)⟩
      · obtain ⟨j, small, which⟩ := ih later
        refine ⟨j, ?_, which⟩
        rw [List.countP_cons_of_pos rfl]
        omega
    | value =>
      rcases List.mem_cons.mp member with first | later
      · exact ⟨n, by simp [isLoop], .inr (Subscript.held.inj first)⟩
      · obtain ⟨j, small, which⟩ := ih later
        refine ⟨j, ?_, which⟩
        rw [List.countP_cons_of_pos rfl]
        omega

/-! ### What the commands do -/

open ServiceCli.Data ServiceCli.Files ServiceCli.Parameters ServiceCli.Shape

/-- The variables of the outermost `d` loops hold the same in two memories. -/
def Keeps (d : Nat) (m m' : Memory) : Prop :=
  ∀ j < d, m' (indexVariable j) = m (indexVariable j) ∧ m' (keyVariable j) = m (keyVariable j)

theorem Keeps.refl (d : Nat) (m : Memory) : Keeps d m m := fun _ _ => ⟨rfl, rfl⟩

theorem Keeps.trans {d : Nat} {m₁ m₂ m₃ : Memory} (first : Keeps d m₁ m₂) (second : Keeps d m₂ m₃) :
    Keeps d m₁ m₃ := by
  intro j small
  exact ⟨(second j small).1.trans (first j small).1, (second j small).2.trans (first j small).2⟩

theorem Keeps.of_le {d e : Nat} {m m' : Memory} (keeps : Keeps e m m') (le : d ≤ e) :
    Keeps d m m' :=
  fun j small => keeps j (Nat.lt_of_lt_of_le small le)

theorem Keeps.set {d : Nat} {name : String}
    (other : ∀ j < d, name ≠ indexVariable j ∧ name ≠ keyVariable j) (m : Memory) (v : Value) :
    Keeps d m (m.set name v) := by
  intro j small
  exact ⟨m.set_other (other j small).1.symm v, m.set_other (other j small).2.symm v⟩

/-- The variable of a tree is no loop variable. -/
def IsTree (name : String) : Prop := ∀ n, name ≠ indexVariable n ∧ name ≠ keyVariable n

/-- A place leads, by some steps, to a value of the tree that its variable holds. -/
structure Holds (m : Memory) (p : AccessPath) (steps : List Step) (tree v : Value) : Prop where
  inStep : p.InStep
  root : m p.root = some tree
  resolves : Resolves m (placeOf p).subscripts steps
  value : valueAt steps tree = .ok v

/-- A run leaves a tree in a variable and keeps the variables of the outermost `d` loops. -/
structure Leaves (root : String) (d : Nat) (m : Memory) (left : Left) (tree : Value)
    (failure : Option Failure) : Prop where
  tree : left.memory root = some tree
  keeps : Keeps d m left.memory
  failure : left.failure = failure

section Places

variable {m m' : Memory} {p : AccessPath} {steps : List Step} {tree v u : Value}

theorem Holds.ofRoot {root : String} (given : m root = some tree) :
    Holds m (.ofRoot root) [] tree tree := ⟨inStep_ofRoot root, given, .nil, rfl⟩

/-- The subscripts of a place mean the same as long as the variables of the loops around it do. -/
theorem Holds.resolves_of_keeps (holds : Holds m p steps tree v) (keeps : Keeps p.depth m m') :
    Resolves m' (placeOf p).subscripts steps := by
  have same : ∀ s ∈ (placeOf p).subscripts, s.step m' = s.step m := by
    intro s member
    cases s with
    | text value => rfl
    | held name =>
      obtain ⟨j, small, which⟩ := held_subscriptsFrom member
      have kept : m' name = m name := by
        rw [Nat.zero_add, ← holds.inStep.depth] at small
        rcases which with rfl | rfl
        · exact (keeps j small).1
        · exact (keeps j small).2
      simp only [Subscript.step, Memory.get, kept]
  exact holds.resolves.congr same

theorem Holds.load (holds : Holds m p steps tree v) : (placeOf p).load m = .ok v := by
  rw [Place.load, Memory.get, show m (placeOf p).root = some tree from holds.root]
  exact (loadFrom_eq holds.resolves tree).trans holds.value

theorem Holds.store (holds : Holds m p steps tree v) (new : Value) :
    (placeOf p).store m new = .ok (m.set p.root (putAt steps tree new)) := by
  rw [Place.store, Memory.get, show m (placeOf p).root = some tree from holds.root]
  simp only [Outcome.ok_bind, storeFrom_eq holds.resolves holds.value]
  rfl

theorem Holds.key {name : String} (holds : Holds m p steps tree u)
    (found : inner u (.key name) = .ok v) :
    Holds m (p.key name) (steps ++ [.key name]) tree v := by
  refine ⟨holds.inStep.key name, holds.root, ?_, valueAt_append holds.value found⟩
  rw [placeOf_key]
  exact List.rel_append holds.resolves (.cons rfl .nil)

theorem Holds.enter {q : AccessPath} {name : String} {held : Value} {s : Step}
    (holds : Holds m p steps tree u) (inStep : q.InStep) (sameRoot : q.root = p.root)
    (subscripts : (placeOf q).subscripts = (placeOf p).subscripts ++ [.held name])
    (other : p.root ≠ name) (keeps : Keeps p.depth m (m.set name held))
    (means : stepOf held = .ok s) (found : inner u s = .ok v) :
    Holds (m.set name held) q (steps ++ [s]) tree v := by
  refine ⟨inStep, ?_, ?_, valueAt_append holds.value found⟩
  · rw [sameRoot, Memory.set_other m other]
    exact holds.root
  · rw [subscripts]
    refine List.rel_append (holds.resolves_of_keeps keeps) (.cons ?_ .nil)
    rw [Subscript.step, Memory.get, Memory.set_same]
    exact means

theorem Holds.after {left : Left} {new : Value} {failure : Option Failure}
    (holds : Holds m p steps tree v)
    (leaves : Leaves p.root p.depth m left (putAt steps tree new) failure) :
    Holds left.memory p steps (putAt steps tree new) new :=
  ⟨holds.inStep, leaves.tree, holds.resolves_of_keeps leaves.keeps, valueAt_putAt holds.value new⟩

theorem Holds.unchanged (holds : Holds m p steps tree v) :
    Leaves p.root p.depth m ⟨m, none⟩ (putAt steps tree v) none := by
  refine ⟨?_, Keeps.refl _ m, rfl⟩
  rw [putAt_self holds.value]
  exact holds.root

end Places

section Runs

variable {root : String} {d : Nat} {m : Memory} {left : Left} {next : Memory → Left}
  {tree tree' : Value} {e : Failure} {failure : Option Failure}

theorem Leaves.continued (first : Leaves root d m left tree none)
    (second : Leaves root d left.memory (next left.memory) tree' failure) :
    Leaves root d m (left.andThen next) tree' failure := by
  rw [Left.andThen, first.failure]
  exact ⟨second.tree, first.keeps.trans second.keeps, second.failure⟩

theorem Leaves.stopped (first : Leaves root d m left tree (some e)) :
    Leaves root d m (left.andThen next) tree (some e) := by
  rw [Left.andThen, first.failure]
  exact first

theorem Leaves.leave {name : String} {held : Value} {inside : Nat}
    (leaves : Leaves root inside (m.set name held) left tree failure) (deeper : d ≤ inside)
    (keeps : Keeps d m (m.set name held)) : Leaves root d m left tree failure :=
  ⟨leaves.tree, keeps.trans (leaves.keeps.of_le deeper), leaves.failure⟩

end Runs

end ServiceCli.Conversion
