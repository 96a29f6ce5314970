import Mathlib.Data.List.Forall2
import ServiceCli.Parameters.Access
import ServiceCli.Parameters.Blob
import ServiceCli.Proofs.Parameters.Place
import ServiceCli.Proofs.Script.Grammar

/-!
What running a script does. Variables hold values; a command changes what they hold, and a failure
stops the run where it happens, with everything done before it kept. When it is known which steps
the subscripts of a place mean, loading and storing are reading and replacing at those steps.
-/

set_option autoImplicit false
set_option relaxedAutoImplicit false

namespace ServiceCli.Script

open ServiceCli.Data ServiceCli.Parameters ServiceCli.Files

/-- What the variables hold. -/
abbrev Memory := String → Option Value

namespace Memory

def get (m : Memory) (name : String) : Outcome Value :=
  match m name with
  | some v => .ok v
  | none => faulty .absentKey

def set (m : Memory) (name : String) (v : Value) : Memory :=
  fun other => if other = name then some v else m other

@[simp] theorem set_same (m : Memory) (name : String) (v : Value) : m.set name v name = some v :=
  if_pos rfl

theorem set_other (m : Memory) {name other : String} (differ : other ≠ name) (v : Value) :
    m.set name v other = m other := if_neg differ

end Memory

/-- What is left after a run: what the variables hold, and the failure that stopped it. -/
structure Left where
  memory : Memory
  failure : Option Failure

/-- A run that continues unless a failure has stopped it. -/
def Left.andThen (left : Left) (next : Memory → Left) : Left :=
  match left.failure with
  | none => next left.memory
  | some _ => left

/-- What an answer leaves: a failure stops with the variables as they are. -/
def leftBy {α : Type} (m : Memory) (answer : Outcome α) (next : α → Left) : Left :=
  match answer with
  | .ok a => next a
  | .error e => ⟨m, some e⟩

/-- The step into a container that a value means as a subscript. -/
def stepOf : Value → Outcome Step
  | .str s => .ok (.key s)
  | .int i => .ok (.index i)
  | _ => faulty .wrongKind

def Subscript.step (m : Memory) : Subscript → Outcome Step
  | .text s => .ok (.key s)
  | .held name => do stepOf (← m.get name)

def loadFrom (m : Memory) : List Subscript → Value → Outcome Value
  | [], v => .ok v
  | s :: rest, v => do loadFrom m rest (← inner v (← s.step m))

def Place.load (m : Memory) (p : Place) : Outcome Value := do
  loadFrom m p.subscripts (← m.get p.root)

/-- A container with a value put one step further in. A mapping takes any text, a list only an
index that it has. -/
def assign (v : Value) (s : Step) (new : Value) : Outcome Value :=
  match v, s with
  | .map _, .key _ => .ok (replaceInner v s new)
  | .list items, .index i =>
    if position items.length i < items.length then .ok (replaceInner v s new)
    else faulty .absentIndex
  | _, _ => faulty .wrongKind

/-- A value with another one put where subscripts lead to. -/
def storeFrom (m : Memory) (new : Value) : List Subscript → Value → Outcome Value
  | [], _ => .ok new
  | [s], v => do assign v (← s.step m) new
  | s :: rest, v => do
    let step ← s.step m
    let changed ← storeFrom m new rest (← inner v step)
    return replaceInner v step changed

def Place.store (m : Memory) (p : Place) (new : Value) : Outcome Memory := do
  let changed ← storeFrom m new p.subscripts (← m.get p.root)
  return m.set p.root changed

/-- The value that an expression reads; an absent member reads as null. -/
def Reader.read (m : Memory) : Reader → Outcome Value
  | .place p => p.load m
  | .lookup p name => do
    match ← p.load m with
    | .map entries => return Value.field entries name
    | _ => faulty .absentOperation

def Kind.holds : Kind → Value → Bool
  | .mapping, .map _ => true
  | .list, .list _ => true
  | .text, .str _ => true
  | _, _ => false

def Check.holds (m : Memory) : Check → Outcome Bool
  | .given r => do return (← r.read m) != .null
  | .isKind r kind => do return kind.holds (← r.read m)
  | .notKind r kind => do return !kind.holds (← r.read m)

/-- Whether all conditions hold; those after one that does not are not tested. -/
def allHold (m : Memory) : List Check → Outcome Bool
  | [] => .ok true
  | check :: rest => do if ← check.holds m then allHold m rest else return false

def Call.answer (files : System) (m : Memory) : Call → Outcome Value
  | .readBlob p label => do Parameters.readBlob files (← p.load m) label
  | .openBlob p label => do Parameters.openBlob files (← p.load m) label
  | .serialize p => do Parameters.serialize (← p.load m)

mutual
def valueOfKey : Key → Value
  | .atom a => .atom a
  | .tuple items => .tuple (valuesOfKeys items)
  | .opaqueText s copyable => .opaqueText s copyable
def valuesOfKeys : List Key → List Value
  | [] => []
  | k :: ks => valueOfKey k :: valuesOfKeys ks
end

/-- What a loop over a value goes through: the items of a list, the keys of a mapping, the letters
of a text. -/
def members : Value → Outcome (List Value)
  | .list items => .ok items
  | .tuple items => .ok items
  | .set keys => .ok (keys.map valueOfKey)
  | .map entries => .ok (entries.map fun entry => valueOfKey entry.1)
  | .str s => .ok (s.toList.map fun c => .str (String.singleton c))
  | .bytes bs => .ok (bs.map fun b => .int b.toNat)
  | _ => faulty .wrongKind

def indicesFrom (start count : Nat) : List Value :=
  (List.range' start count).map fun (i : Nat) => .int i

/-- Runs a body with a variable set to each of some values. -/
def each (name : String) (body : Memory → Left) : List Value → Memory → Left
  | [], m => ⟨m, none⟩
  | v :: vs, m => (body (m.set name v)).andThen (each name body vs)

mutual
def Command.run (files : System) : Command → Memory → Left
  | .store target call, m =>
    leftBy m (call.answer files m >>= target.store m) fun stored => ⟨stored, none⟩
  | .block (.when checks) body, m =>
    leftBy m (allHold m checks) fun holds => if holds then runAll files body m else ⟨m, none⟩
  | .block (.overIndices name p) body, m =>
    leftBy m (p.load m >>= members) fun vs =>
      each name (runAll files body) (indicesFrom 0 vs.length) m
  | .block (.overMembers name p) body, m =>
    leftBy m (p.load m >>= members) fun vs => each name (runAll files body) vs m
def runAll (files : System) : List Command → Memory → Left
  | [], m => ⟨m, none⟩
  | c :: rest, m => (c.run files m).andThen (runAll files rest)
end

@[simp] theorem Left.andThen_none (m : Memory) (next : Memory → Left) :
    Left.andThen ⟨m, none⟩ next = next m := rfl

theorem Left.andThen_assoc (left : Left) (f g : Memory → Left) :
    (left.andThen f).andThen g = left.andThen fun m => (f m).andThen g := by
  obtain ⟨m, failure⟩ := left
  cases failure <;> rfl

theorem runAll_append (files : System) (first rest : List Command) (m : Memory) :
    runAll files (first ++ rest) m = (runAll files first m).andThen (runAll files rest) := by
  induction first generalizing m with
  | nil => rfl
  | cons c first ih =>
    rw [List.cons_append, runAll, runAll, Left.andThen_assoc]
    congr 1
    funext m
    exact ih m

theorem runAll_single (files : System) (c : Command) (m : Memory) :
    runAll files [c] m = c.run files m := by
  rw [runAll]
  generalize c.run files m = left
  obtain ⟨m, failure⟩ := left
  cases failure with
  | none => rw [Left.andThen_none, runAll]
  | some e => rfl

section Access

/-- Subscripts mean steps, one each. -/
def Resolves (m : Memory) (subscripts : List Subscript) (steps : List Step) : Prop :=
  List.Forall₂ (fun subscript step => subscript.step m = .ok step) subscripts steps

variable {m : Memory} {subscripts : List Subscript} {steps : List Step} {v u : Value}

theorem Resolves.congr {m' : Memory} (resolves : Resolves m subscripts steps)
    (same : ∀ s ∈ subscripts, s.step m' = s.step m) : Resolves m' subscripts steps := by
  induction resolves with
  | nil => exact .nil
  | @cons s step _ _ first _ ih =>
    refine .cons ?_ (ih fun s member => same s (List.mem_cons_of_mem _ member))
    rw [same s List.mem_cons_self, first]

theorem loadFrom_eq (resolves : Resolves m subscripts steps) (v : Value) :
    loadFrom m subscripts v = valueAt steps v := by
  induction resolves generalizing v with
  | nil => rfl
  | cons step rest ih =>
    rw [loadFrom, step, valueAt]
    simp only [Outcome.ok_bind, ih]

/-- What can be read one step further in can be replaced there. -/
theorem assign_eq {s : Step} (found : inner v s = .ok u) (new : Value) :
    assign v s new = .ok (replaceInner v s new) := by
  rcases inner_eq_ok found with
    ⟨before, after, name, rfl, rfl, -⟩ | ⟨before, after, i, rfl, rfl, place⟩
  · rfl
  · have inside : position (before ++ u :: after).length i < (before ++ u :: after).length := by
      rw [place, List.length_append, List.length_cons]
      omega
    rw [assign, if_pos inside]

theorem storeFrom_eq (resolves : Resolves m subscripts steps) (found : valueAt steps v = .ok u)
    (new : Value) : storeFrom m new subscripts v = .ok (putAt steps v new) := by
  induction resolves generalizing v with
  | nil => rfl
  | @cons subscript s subscripts steps step rest ih =>
    obtain ⟨next, first, further⟩ := valueAt_cons.mp found
    cases rest with
    | nil =>
      rw [storeFrom, step, Outcome.ok_bind, assign_eq first, putAt_cons first]
      rfl
    | cons _ _ =>
      rw [storeFrom, step, Outcome.ok_bind, first, Outcome.ok_bind, ih further, putAt_cons first]
      · rfl
      · simp

end Access

end ServiceCli.Script
