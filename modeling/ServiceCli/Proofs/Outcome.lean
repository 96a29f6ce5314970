import ServiceCli.Failure

set_option autoImplicit false
set_option relaxedAutoImplicit false

namespace ServiceCli.Outcome

variable {ε α β : Type}

theorem bind_eq_ok {x : Except ε α} {f : α → Except ε β} {b : β} :
    x >>= f = .ok b ↔ ∃ a, x = .ok a ∧ f a = .ok b := by
  cases x <;> simp [bind, Except.bind]

theorem bind_eq_error {x : Except ε α} {f : α → Except ε β} {e : ε} :
    x >>= f = .error e ↔ x = .error e ∨ ∃ a, x = .ok a ∧ f a = .error e := by
  cases x <;> simp [bind, Except.bind]

theorem pure_eq_ok {a b : α} : (pure a : Except ε α) = .ok b ↔ a = b := by
  simp [pure, Except.pure]

theorem return_eq_error {x : Except ε α} {g : α → β} {e : ε} :
    (do return g (← x)) = .error e ↔ x = .error e := by
  cases x <;> simp [bind, Except.bind, pure, Except.pure]

@[simp] theorem ok_bind (a : α) (f : α → Except ε β) : (Except.ok a : Except ε α) >>= f = f a := rfl

theorem mapError_eq_ok {ε' : Type} {f : ε → ε'} {x : Except ε α} {a : α} :
    x.mapError f = .ok a ↔ x = .ok a := by
  cases x with
  | error e => exact ⟨fun same => (by cases same), fun same => (by cases same)⟩
  | ok b => exact ⟨fun same => (by cases same; rfl), fun same => (by cases same; rfl)⟩

theorem error_bind (e : ε) (f : α → Except ε β) :
    (Except.error e : Except ε α) >>= f = .error e := rfl

/-- An outcome is a value, a fault of one kind or a refusal of one kind. -/
inductive Answers (refusal : Failure → Prop) (faults : Fault → Prop) : Outcome α → Prop
  | ok (a : α) : Answers refusal faults (.ok a)
  | fault {cause : Fault} : faults cause → Answers refusal faults (faulty cause)
  | refused {e : Failure} : refusal e → Answers refusal faults (.error e)

namespace Answers

variable {refusal : Failure → Prop} {faults : Fault → Prop} {x : Outcome α}

theorem mono {other : Fault → Prop} (answers : Answers refusal faults x)
    (more : ∀ fault, faults fault → other fault) : Answers refusal other x := by
  cases answers with
  | ok a => exact .ok a
  | fault faulted => exact .fault (more _ faulted)
  | refused refused => exact .refused refused

theorem bind {next : α → Outcome β} (first : Answers refusal faults x)
    (later : ∀ a, Answers refusal faults (next a)) : Answers refusal faults (x >>= next) := by
  cases first with
  | ok a => exact later a
  | fault faulted => exact .fault faulted
  | refused refused => exact .refused refused

theorem kinds (answers : Answers refusal faults x) :
    (∃ a, x = .ok a) ∨ (∃ e, x = .error e ∧ refusal e) ∨
      ∃ fault, x = faulty fault ∧ faults fault := by
  cases answers with
  | ok a => exact .inl ⟨a, rfl⟩
  | fault faulted => exact .inr (.inr ⟨_, rfl, faulted⟩)
  | refused refused => exact .inr (.inl ⟨_, rfl, refused⟩)

theorem of_faulty {fault : Fault} (answers : Answers refusal faults x)
    (other : ¬refusal (.fault fault)) (faulted : x = faulty fault) : faults fault := by
  cases answers with
  | ok a => exact nomatch faulted
  | fault own =>
    cases faulted
    exact own
  | refused refused =>
    cases faulted
    exact absurd refused other

end Answers

def FaultsOnly {α : Type} (o : Outcome α) : Prop := ∀ f, o = .error f → ∃ fault, f = .fault fault

namespace FaultsOnly

theorem ok (a : α) : FaultsOnly (.ok a) := fun _ failed => nomatch failed

theorem faulty (fault : Fault) : FaultsOnly (faulty fault : Outcome α) := by
  intro f failed
  cases failed
  exact ⟨fault, rfl⟩

theorem bind {o : Outcome α} {next : α → Outcome β} (first : o.FaultsOnly)
    (later : ∀ a, o = .ok a → (next a).FaultsOnly) : (o >>= next).FaultsOnly := by
  intro f failed
  rcases bind_eq_error.mp failed with early | ⟨a, made, late⟩
  · exact first f early
  · exact later a made f late

end FaultsOnly

end ServiceCli.Outcome
