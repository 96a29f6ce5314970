import ServiceCli.Parameters.Access
import ServiceCli.Proofs.Data.Entries
import ServiceCli.Proofs.Outcome

set_option autoImplicit false
set_option relaxedAutoImplicit false

namespace ServiceCli.Parameters

open ServiceCli.Data

def valueAt : List Step → Value → Outcome Value
  | [], v => .ok v
  | s :: rest, v => do valueAt rest (← inner v s)

/-- A value with another one put where steps lead to; steps that lead nowhere change nothing. -/
def putAt : List Step → Value → Value → Value
  | [], _, new => new
  | s :: rest, v, new =>
    match inner v s with
    | .ok u => replaceInner v s (putAt rest u new)
    | .error _ => v

variable {v u w : Value} {s : Step} {steps : List Step}

theorem inner_key {before after : Entries} {name : String}
    (absent : ∀ entry ∈ before, entry.1 ≠ .str name) :
    inner (.map (before ++ (.str name, u) :: after)) (.key name) = .ok u := by
  simp only [inner, Entries.get?_append_cons absent]

theorem replaceInner_key {before after : Entries} {name : String}
    (absent : ∀ entry ∈ before, entry.1 ≠ .str name) (w : Value) :
    replaceInner (.map (before ++ (.str name, u) :: after)) (.key name) w
      = .map (before ++ (.str name, w) :: after) := by
  simp only [replaceInner, Entries.put_append_cons absent]

theorem inner_index {before after : List Value} {i : Int}
    (place : position (before ++ u :: after).length i = before.length) :
    inner (.list (before ++ u :: after)) (.index i) = .ok u := by
  have there : (before ++ u :: after)[before.length]? = some u := by simp
  simp only [inner, place, there]

theorem replaceInner_index {before after : List Value} {i : Int}
    (place : position (before ++ u :: after).length i = before.length) (w : Value) :
    replaceInner (.list (before ++ u :: after)) (.index i) w = .list (before ++ w :: after) := by
  have there : (before ++ u :: after).set before.length w = before ++ w :: after := by simp
  simp only [replaceInner, place, there]

theorem inner_eq_ok (found : inner v s = .ok u) :
    (∃ before after name, v = .map (before ++ (.str name, u) :: after) ∧ s = .key name
      ∧ ∀ entry ∈ before, entry.1 ≠ .str name)
    ∨ (∃ before after i, v = .list (before ++ u :: after) ∧ s = .index i
      ∧ position (before ++ u :: after).length i = before.length) := by
  cases s with
  | key name =>
    simp only [inner] at found
    split at found
    · rename_i entries
      split at found
      · rename_i there
        obtain ⟨before, after, rfl, absent⟩ := Entries.split_of_get? there
        exact .inl ⟨before, after, name, by rw [Except.ok.inj found], rfl, absent⟩
      · exact absurd found (by simp [faulty])
    · exact absurd found (by simp [faulty])
  | index i =>
    simp only [inner] at found
    split at found
    · rename_i items
      split at found
      · rename_i there
        rw [Except.ok.inj found] at there
        have inside : position items.length i < items.length :=
          (List.getElem?_eq_some_iff.mp there).1
        have parts : items = items.take (position items.length i)
            ++ u :: items.drop (position items.length i + 1) := by
          rw [← (List.getElem?_eq_some_iff.mp there).2, List.getElem_cons_drop,
            List.take_append_drop]
        refine .inr ⟨_, _, i, by rw [← parts], rfl, ?_⟩
        rw [← parts, List.length_take, Nat.min_eq_left (Nat.le_of_lt inside)]
      · exact absurd found (by simp [faulty])
    · exact absurd found (by simp [faulty])
    · exact absurd found (by simp [faulty])

theorem inner_replaceInner (found : inner v s = .ok u) (w : Value) :
    inner (replaceInner v s w) s = .ok w := by
  rcases inner_eq_ok found with
    ⟨before, after, name, rfl, rfl, absent⟩ | ⟨before, after, i, rfl, rfl, place⟩
  · rw [replaceInner_key absent, inner_key absent]
  · rw [replaceInner_index place, inner_index (by simpa using place)]

theorem replaceInner_replaceInner (found : inner v s = .ok u) (w w' : Value) :
    replaceInner (replaceInner v s w) s w' = replaceInner v s w' := by
  rcases inner_eq_ok found with
    ⟨before, after, name, rfl, rfl, absent⟩ | ⟨before, after, i, rfl, rfl, place⟩
  · rw [replaceInner_key absent, replaceInner_key absent, replaceInner_key absent]
  · rw [replaceInner_index place, replaceInner_index (by simpa using place),
      replaceInner_index place]

theorem replaceInner_self (found : inner v s = .ok u) : replaceInner v s u = v := by
  rcases inner_eq_ok found with
    ⟨before, after, name, rfl, rfl, absent⟩ | ⟨before, after, i, rfl, rfl, place⟩
  · rw [replaceInner_key absent]
  · rw [replaceInner_index place]

theorem valueAt_cons :
    valueAt (s :: steps) v = .ok w ↔ ∃ u, inner v s = .ok u ∧ valueAt steps u = .ok w :=
  Outcome.bind_eq_ok

theorem putAt_cons (found : inner v s = .ok u) (w : Value) :
    putAt (s :: steps) v w = replaceInner v s (putAt steps u w) := by
  rw [putAt, found]

theorem valueAt_putAt (found : valueAt steps v = .ok u) (w : Value) :
    valueAt steps (putAt steps v w) = .ok w := by
  induction steps generalizing v with
  | nil => rfl
  | cons s steps ih =>
    obtain ⟨next, step, rest⟩ := valueAt_cons.mp found
    rw [putAt_cons step]
    exact valueAt_cons.mpr ⟨_, inner_replaceInner step _, ih rest⟩

theorem putAt_putAt (found : valueAt steps v = .ok u) (w w' : Value) :
    putAt steps (putAt steps v w) w' = putAt steps v w' := by
  induction steps generalizing v with
  | nil => rfl
  | cons s steps ih =>
    obtain ⟨next, step, rest⟩ := valueAt_cons.mp found
    rw [putAt_cons step, putAt_cons (inner_replaceInner step _), ih rest,
      replaceInner_replaceInner step, putAt_cons step]

theorem putAt_self (found : valueAt steps v = .ok u) : putAt steps v u = v := by
  induction steps generalizing v with
  | nil => exact (Except.ok.inj found).symm
  | cons s steps ih =>
    obtain ⟨next, step, rest⟩ := valueAt_cons.mp found
    rw [putAt_cons step, ih rest, replaceInner_self step]

theorem valueAt_append (found : valueAt steps v = .ok u) (step : inner u s = .ok w) :
    valueAt (steps ++ [s]) v = .ok w := by
  induction steps generalizing v with
  | nil =>
    rw [Except.ok.inj found]
    exact valueAt_cons.mpr ⟨w, step, rfl⟩
  | cons t steps ih =>
    obtain ⟨next, first, rest⟩ := valueAt_cons.mp found
    exact valueAt_cons.mpr ⟨next, first, ih rest⟩

/-- Putting a value one step further in is putting a changed container. -/
theorem putAt_append (found : valueAt steps v = .ok u) (step : inner u s = .ok w) (new : Value) :
    putAt (steps ++ [s]) v new = putAt steps v (replaceInner u s new) := by
  induction steps generalizing v with
  | nil =>
    rw [Except.ok.inj found]
    exact putAt_cons step new
  | cons t steps ih =>
    obtain ⟨next, first, rest⟩ := valueAt_cons.mp found
    rw [List.cons_append, putAt_cons first, putAt_cons first, ih rest]

end ServiceCli.Parameters
