import ServiceCli.Proofs.Outcome
import ServiceCli.Proofs.Parameters.Stream
import ServiceCli.Proofs.Script.Meaning

set_option autoImplicit false
set_option relaxedAutoImplicit false

namespace ServiceCli.Script

open ServiceCli.Data ServiceCli.Files ServiceCli.Parameters

/-- What is opened after a run, nothing when a failure has stopped it. -/
def Left.further (left : Left) (next : Memory → List Value) : List Value :=
  match left.failure with
  | none => next left.memory
  | some _ => []

def openedBy {α : Type} (answer : Outcome α) (next : α → List Value) : List Value :=
  match answer with
  | .ok a => next a
  | .error _ => []

def Call.opened (files : System) (m : Memory) : Call → List Value
  | .openBlob p label => openedBy ((Call.openBlob p label).answer files m) fun stream => [stream]
  | _ => []

/-- What is opened in the turns of a loop; `opens` tells what one turn of the body opens. -/
def openedEach (name : String) (body : Memory → Left) (opens : Memory → List Value) :
    List Value → Memory → List Value
  | [], _ => []
  | v :: vs, m =>
    opens (m.set name v) ++ (body (m.set name v)).further (openedEach name body opens vs)

mutual
def Command.opened (files : System) : Command → Memory → List Value
  | .store _ call, m => call.opened files m
  | .block (.when checks) body, m =>
    openedBy (allHold m checks) fun holds => if holds then openedAll files body m else []
  | .block (.overIndices name p) body, m =>
    openedBy (p.load m >>= members) fun vs =>
      openedEach name (runAll files body) (openedAll files body) (indicesFrom 0 vs.length) m
  | .block (.overMembers name p) body, m =>
    openedBy (p.load m >>= members) fun vs =>
      openedEach name (runAll files body) (openedAll files body) vs m
def openedAll (files : System) : List Command → Memory → List Value
  | [], _ => []
  | c :: rest, m => c.opened files m ++ (c.run files m).further (openedAll files rest)
end

mutual
/-- Whether a command holds a call that opens a stream. -/
def Command.mayOpen : Command → Bool
  | .store _ (.openBlob _ _) => true
  | .store _ _ => false
  | .block _ body => anyMayOpen body
/-- Whether one of the commands holds a call that opens a stream. -/
def anyMayOpen : List Command → Bool
  | [] => false
  | c :: rest => c.mayOpen || anyMayOpen rest
end

section Runs

variable {files : System} {m : Memory} {left : Left}

theorem further_of_ok {next : Memory → List Value} (ok : left.failure = none) :
    left.further next = next left.memory := by
  rw [Left.further, ok]

theorem further_nil {next : Memory → List Value} (none : ∀ m, next m = []) (left : Left) :
    left.further next = [] := by
  rw [Left.further]
  split
  · exact none left.memory
  · rfl

theorem further_append (left : Left) (f : Memory → Left) (g h : Memory → List Value) :
    left.further (fun m => g m ++ (f m).further h)
      = left.further g ++ (left.andThen f).further h := by
  obtain ⟨m, failure⟩ := left
  cases failure with
  | none => rfl
  | some e => rfl

theorem openedAll_append (first rest : List Command) (m : Memory) :
    openedAll files (first ++ rest) m
      = openedAll files first m ++ (runAll files first m).further (openedAll files rest) := by
  induction first generalizing m with
  | nil => rfl
  | cons c first ih =>
    -- the induction hypothesis is for every memory, and what comes after `c` starts from another
    have inside : openedAll files (first ++ rest) = fun m =>
        openedAll files first m ++ (runAll files first m).further (openedAll files rest) :=
      funext ih
    rw [List.cons_append, openedAll, openedAll, runAll, inside, further_append, List.append_assoc]

theorem openedAll_single (c : Command) (m : Memory) :
    openedAll files [c] m = c.opened files m := by
  have rest : (c.run files m).further (openedAll files []) = [] := further_nil (fun _ => rfl) _
  rw [openedAll, rest, List.append_nil]

theorem opened_unless {check : Check} (fails : check.holds m = .ok false) (rest : List Check)
    (body : List Command) : openedAll files [.block (.when (check :: rest)) body] m = [] := by
  rw [openedAll_single, Command.opened, allHold, fails]
  rfl

theorem opened_when {check : Check} (holds : check.holds m = .ok true) (rest : List Check)
    (body : List Command) :
    openedAll files [.block (.when (check :: rest)) body] m
      = openedAll files [.block (.when rest) body] m := by
  rw [openedAll_single, openedAll_single, Command.opened, Command.opened, allHold, holds]
  rfl

theorem opened_body (body : List Command) :
    openedAll files [.block (.when []) body] m = openedAll files body m := by
  rw [openedAll_single, Command.opened]
  rfl

end Runs

section Quiet

variable {files : System}

theorem openedBy_nil {α : Type} {next : α → List Value} (none : ∀ a, next a = [])
    (answer : Outcome α) : openedBy answer next = [] := by
  cases answer with
  | ok a => exact none a
  | error e => rfl

theorem openedEach_nil {opens : Memory → List Value} (none : ∀ m, opens m = []) (name : String)
    (body : Memory → Left) (vs : List Value) (m : Memory) :
    openedEach name body opens vs m = [] := by
  induction vs generalizing m with
  | nil => rfl
  | cons v vs ih =>
    rw [openedEach, none, further_nil ih, List.append_nil]

mutual
theorem opened_of_quiet : ∀ c : Command, c.mayOpen = false → ∀ m, c.opened files m = []
  | .store _ call, quiet, m => by
    cases call with
    | openBlob => exact absurd quiet (by simp [Command.mayOpen])
    | readBlob => rfl
    | serialize => rfl
  | .block (.when checks) body, quiet, m => by
    have inside := openedAll_of_quiet body quiet
    rw [Command.opened]
    refine openedBy_nil (fun holds => ?_) _
    rw [inside, ite_self]
  | .block (.overIndices name p) body, quiet, m => by
    have inside := openedAll_of_quiet body quiet
    rw [Command.opened]
    exact openedBy_nil (fun vs => openedEach_nil inside name _ _ m) _
  | .block (.overMembers name p) body, quiet, m => by
    have inside := openedAll_of_quiet body quiet
    rw [Command.opened]
    exact openedBy_nil (fun vs => openedEach_nil inside name _ _ m) _
theorem openedAll_of_quiet : ∀ commands : List Command, anyMayOpen commands = false →
    ∀ m, openedAll files commands m = []
  | [], _, _ => rfl
  | c :: rest, quiet, m => by
    obtain ⟨first, others⟩ := Bool.or_eq_false_iff.mp quiet
    have later := further_nil (openedAll_of_quiet rest others) (c.run files m)
    rw [openedAll, opened_of_quiet c first, later, List.append_nil]
end

end Quiet

section Open

variable {files : System} {s : Value}

theorem mem_further {left : Left} {next : Memory → List Value} (member : s ∈ left.further next) :
    s ∈ next left.memory := by
  rw [Left.further] at member
  split at member
  · exact member
  · exact absurd member (by simp)

theorem mem_openedBy {α : Type} {answer : Outcome α} {next : α → List Value}
    (member : s ∈ openedBy answer next) : ∃ a, answer = .ok a ∧ s ∈ next a := by
  cases answer with
  | ok a => exact ⟨a, rfl, member⟩
  | error e => exact absurd member (by simp [openedBy])

theorem isOpen_call {m : Memory} {call : Call} (member : s ∈ call.opened files m) : IsOpen s := by
  cases call with
  | openBlob p label =>
    obtain ⟨stream, answer, only⟩ := mem_openedBy member
    obtain ⟨v, -, opened⟩ := Outcome.bind_eq_ok.mp answer
    obtain ⟨path, -, made⟩ := Outcome.bind_eq_ok.mp opened
    rw [List.mem_singleton.mp only, ← Outcome.pure_eq_ok.mp made]
    exact rfl
  | readBlob => exact absurd member (by simp [Call.opened])
  | serialize => exact absurd member (by simp [Call.opened])

theorem isOpen_each {name : String} {body : Memory → Left} {opens : Memory → List Value}
    (inside : ∀ m, s ∈ opens m → IsOpen s) (vs : List Value) (m : Memory)
    (member : s ∈ openedEach name body opens vs m) : IsOpen s := by
  induction vs generalizing m with
  | nil => exact absurd member (by simp [openedEach])
  | cons v vs ih =>
    rcases List.mem_append.mp member with own | later
    · exact inside _ own
    · exact ih _ (mem_further later)

mutual
theorem isOpen_of_opened : ∀ (c : Command) (m : Memory), s ∈ c.opened files m → IsOpen s
  | .store _ call, m, member => isOpen_call member
  | .block (.when checks) body, m, member => by
    obtain ⟨holds, -, inside⟩ := mem_openedBy member
    split at inside
    · exact isOpen_of_openedAll body m inside
    · exact absurd inside (by simp)
  | .block (.overIndices name p) body, m, member => by
    obtain ⟨vs, -, inside⟩ := mem_openedBy member
    exact isOpen_each (isOpen_of_openedAll body) _ m inside
  | .block (.overMembers name p) body, m, member => by
    obtain ⟨vs, -, inside⟩ := mem_openedBy member
    exact isOpen_each (isOpen_of_openedAll body) _ m inside
theorem isOpen_of_openedAll : ∀ (commands : List Command) (m : Memory),
    s ∈ openedAll files commands m → IsOpen s
  | [], _, member => absurd member (by simp [openedAll])
  | c :: rest, m, member => by
    rcases List.mem_append.mp member with own | later
    · exact isOpen_of_opened c m own
    · exact isOpen_of_openedAll rest _ (mem_further later)
end

end Open

end ServiceCli.Script
