import ServiceCli.Proofs.Shape.Misfit
import ServiceCli.Proofs.Shape.Unfolding

/-!
Unfolding malformed models. Main statement: unfolding a reference gives a type, or refuses it with a
schema error, or is at fault; and it is at fault exactly when it comes upon a part of a shape that
is of a kind that nothing provides for.
-/

set_option autoImplicit false
set_option relaxedAutoImplicit false

namespace ServiceCli.Shape

open ServiceCli.Data

/-- Unfolding a reference below its ancestors comes upon a misfit: in its own shape, or below a
reference that its shape asks for. -/
inductive Trips (graph : Graph) : List Ref → Ref → Fault → Prop
  | here {chain : List Ref} {r : Ref} {shape : Entries} {f : Fault} : Denotes graph r shape →
    r ∉ chain → ShapeMisfit (Unfolds graph) shape f → Trips graph chain r f
  | further {chain : List Ref} {r t : Ref} {shape : Entries} {f : Fault} : Denotes graph r shape →
    r ∉ chain → ShapeAsks (Unfolds graph) shape t → Trips graph (chain ++ [r]) t f →
    Trips graph chain r f

section Trips

variable {graph : Graph} {chain : List Ref} {r : Ref} {f : Fault}

theorem Trips.reaches (trips : Trips graph chain r f) : ∃ s shape,
    Relation.ReflTransGen (Refers graph) r s ∧ Denotes graph s shape ∧
      ShapeMisfit (Unfolds graph) shape f := by
  induction trips with
  | here denotes _ misfit => exact ⟨_, _, .refl, denotes, misfit⟩
  | further denotes _ asks _ ih =>
    obtain ⟨s, shape, reaches, misfit⟩ := ih
    exact ⟨s, shape, reaches.head ⟨_, denotes, asks.refers⟩, misfit⟩

/-- A fault comes from a misfit, but for fuel that is used up. -/
theorem trips_of_resolveWith {fuel : Nat} (failed : resolveWith graph fuel chain r = faulty f)
    (other : f ≠ .endlessNesting) : Trips graph chain r f := by
  induction fuel generalizing chain r with
  | zero => exact absurd (faulty_eq_faulty.mp failed).symm other
  | succ fuel ih =>
    -- only a shape that is met for the first time can be at fault
    rcases reference_cases graph chain r with scope | ⟨shape, denotes, met⟩ |
      ⟨shape, denotes, fresh⟩ | ⟨scope, absent⟩
    · exact nomatch (resolveWith_prelude scope fuel chain).symm.trans failed
    · exact nomatch (resolveWith_met denotes met fuel).symm.trans failed
    · rw [resolveWith_shape denotes fresh] at failed
      rcases unfoldShape_eq_faulty.mp failed with ⟨t, asks, failed⟩ | misfit
      · exact .further denotes fresh (asks.mono fun _ _ _ => unfolds_of_resolveWith) (ih failed)
      · exact .here denotes fresh (misfit.mono fun _ _ _ => unfolds_of_resolveWith)
    · exact nomatch (resolveWith_absent scope absent fuel chain).symm.trans failed

theorem given_of_unfolds {shape : Entries} (denotes : Denotes graph r shape)
    (above : ∀ s ∈ chain, Relation.ReflTransGen (Refers graph) s r) {t : Ref} {d : TypeTree}
    (refers : ShapeRefers shape t) (unfolds : Unfolds graph t d) :
    given (resolveFrom graph (chain ++ [r])) t d := by
  have refers : Refers graph r t := ⟨shape, denotes, refers⟩
  refine resolveFrom_of_unfolds unfolds fun s ancestor reaches => ?_
  have back : Relation.ReflTransGen (Refers graph) s r := by
    rcases List.mem_append.mp ancestor with ancestor | own
    · exact above s ancestor
    · rw [List.mem_singleton.mp own]
  -- an ancestor that the unfolding comes upon would close a cycle through `t`
  exact unfolds.not_cyclic (Relation.TransGen.tail' (reaches.trans back) refers)

/-- Below ancestors that lead to it, a reference is at fault where its unfolding comes upon a
misfit. -/
theorem resolveFrom_of_trips (trips : Trips graph chain r f)
    (above : ∀ s ∈ chain, Relation.ReflTransGen (Refers graph) s r) :
    resolveFrom graph chain r = faulty f := by
  induction trips with
  | here denotes fresh misfit =>
    rw [resolveFrom_shape denotes fresh, unfoldShape_eq_faulty]
    exact .inr (misfit.mono fun t d => given_of_unfolds denotes above)
  | @further chain r t shape f denotes fresh asks _ ih =>
    rw [resolveFrom_shape denotes fresh, unfoldShape_eq_faulty]
    have refers : Refers graph r t := ⟨shape, denotes, asks.refers⟩
    refine .inl ⟨t, asks.mono fun t d => given_of_unfolds denotes above, ih fun s ancestor => ?_⟩
    rcases List.mem_append.mp ancestor with ancestor | own
    · exact (above s ancestor).tail refers
    · exact List.mem_singleton.mp own ▸ .single refers

end Trips

section Causes

variable {unfold : Ref → Outcome TypeTree} {owner : String} {name : Key} {member v : Value}
variable {shape : Entries}

def IsSchematic (e : Failure) : Prop := ∃ cause, e = .schema cause

/-- A computation is refused with schema errors only, but for faults. -/
abbrev StaysSchematic {α : Type} (x : Outcome α) : Prop := x.Answers IsSchematic fun _ => True

theorem refuse_staysSchematic {α : Type} (cause : SchemaError) :
    StaysSchematic (refuse cause : Outcome α) := .refused ⟨cause, rfl⟩

theorem entriesOf_staysSchematic : StaysSchematic (entriesOf v) := by
  cases v <;> first | exact .ok _ | exact .fault trivial

theorem mentions_staysSchematic {text : String} : StaysSchematic (mentions text v) := by
  rw [mentions.eq_def]
  split <;> first | exact .ok _ | exact .fault trivial

theorem textOf_staysSchematic : StaysSchematic (textOf v) := by
  rw [textOf.eq_def]
  repeat' split
  all_goals first | exact .ok _ | exact .fault trivial

theorem nameOf_staysSchematic : StaysSchematic (nameOf name) := by
  cases name with
  | atom a => exact textOf_staysSchematic
  | _ => exact .fault trivial

theorem refOf_staysSchematic : StaysSchematic (refOf v) := by
  rw [refOf.eq_def]
  repeat' split
  all_goals first | exact .ok _ | exact refuse_staysSchematic _ | exact .fault trivial

theorem memberRef_staysSchematic : StaysSchematic (memberRef member owner) := by
  rw [memberRef.eq_def]
  dsimp only
  split
  · exact refOf_staysSchematic
  · exact refuse_staysSchematic _

theorem partOf_staysSchematic {part : String} : StaysSchematic (partOf shape part owner) := by
  rw [partOf.eq_def]
  split
  · exact .ok _
  · exact refuse_staysSchematic _

theorem fieldOfType_staysSchematic {type : TypeTree} :
    StaysSchematic (fieldOfType name v type) :=
  mentions_staysSchematic.bind fun _ =>
    ((entriesOf_staysSchematic.bind fun _ => .ok _).bind fun _ => .ok _).bind fun _ =>
      mentions_staysSchematic.bind fun _ => nameOf_staysSchematic.bind fun _ =>
        textOf_staysSchematic.bind fun _ => .ok _

variable (each : ∀ t, StaysSchematic (unfold t))

include each

theorem fieldFor_staysSchematic : StaysSchematic (fieldFor unfold owner name member) :=
  (entriesOf_staysSchematic.bind fun _ => .ok _).bind fun _ =>
    memberRef_staysSchematic.bind fun t => (each t).bind fun _ => fieldOfType_staysSchematic

theorem fieldsFor_staysSchematic (members : List (Key × Value)) :
    StaysSchematic (fieldsFor unfold owner members) := by
  induction members with
  | nil => exact .ok _
  | cons m members ih =>
    exact (fieldFor_staysSchematic each).bind fun _ => ih.bind fun _ => .ok _

theorem unfoldShape_staysSchematic : StaysSchematic (unfoldShape unfold owner shape) := by
  have listed : StaysSchematic (do
      let member ← partOf shape "member" owner
      return TypeTree.list (← unfold (← memberRef member owner))) :=
    partOf_staysSchematic.bind fun _ => memberRef_staysSchematic.bind fun t =>
      (each t).bind fun _ => .ok _
  rw [unfoldShape.eq_def]
  split
  · exact mentions_staysSchematic.bind fun _ => .ok _
  · exact listed
  · exact listed
  · exact partOf_staysSchematic.bind fun _ => partOf_staysSchematic.bind fun _ =>
      (fieldFor_staysSchematic each).bind fun _ => (fieldFor_staysSchematic each).bind fun _ =>
        .ok _
  · exact entriesOf_staysSchematic.bind fun _ =>
      (fieldsFor_staysSchematic each _).bind fun _ => .ok _
  · exact .ok _
  · exact refuse_staysSchematic _

omit each

theorem resolveWith_staysSchematic (graph : Graph) (fuel : Nat) (chain : List Ref) (r : Ref) :
    StaysSchematic (resolveWith graph fuel chain r) := by
  induction fuel generalizing chain r with
  | zero => exact .fault trivial
  | succ fuel ih =>
    rw [resolveWith]
    repeat' split
    · exact .ok _
    · exact refuse_staysSchematic _
    · exact unfoldShape_staysSchematic fun t => ih _ t
    · exact refuse_staysSchematic _

end Causes

section Outcomes

/-- Unfolding a reference gives a type, refuses it with a schema error, or is at fault over a part
of the wrong kind. It is at fault exactly when it comes upon such a part in a shape that the
reference leads to. -/
theorem resolve_outcomes (graph : Graph) (r : Ref) :
    ((∃ d, resolve graph r = .ok d) ∨ (∃ cause, resolve graph r = refuse cause) ∨
      ∃ f, IsMisfit f ∧ resolve graph r = faulty f) ∧
    (∀ f, resolve graph r = faulty f ↔ Trips graph [] r f) ∧
    ∀ f, Trips graph [] r f → ∃ s shape, Relation.ReflTransGen (Refers graph) r s ∧
      Denotes graph s shape ∧ ShapeMisfit (Unfolds graph) shape f := by
  -- the fuel is above the number of shapes, so no fault comes from using it up
  have exact (f : Fault) : resolve graph r = faulty f ↔ Trips graph [] r f := by
    constructor
    · intro failed
      refine trips_of_resolveWith failed ?_
      rintro rfl
      exact resolveFrom_ne_endless graph [] r failed
    · intro trips
      exact resolveFrom_of_trips trips nofun
  refine ⟨?_, exact, fun f trips => trips.reaches⟩
  obtain resolved | ⟨_, failed, cause, rfl⟩ | ⟨f, failed, -⟩ :=
    (resolveWith_staysSchematic graph (graph.length + 2) [] r).kinds
  · exact .inl resolved
  · exact .inr (.inl ⟨cause, failed⟩)
  · obtain ⟨_, _, _, _, misfit⟩ := ((exact f).mp failed).reaches
    exact .inr (.inr ⟨f, misfit.isMisfit, failed⟩)

private def bareGraph : Graph := [
  (.str "a#S", .map [(.str "type", .str "structure"),
    (.str "members", .map [(.str "x", .int 5)])])]

/-- A member that is a number is no schema error: reading it is at fault. -/
theorem resolve_bare_member : (Value.map bareGraph).IsJson ∧
    resolve bareGraph ⟨"a", "S"⟩ = faulty .absentOperation ∧
    ¬((∃ d, resolve bareGraph ⟨"a", "S"⟩ = .ok d) ∨
      ∃ cause, resolve bareGraph ⟨"a", "S"⟩ = refuse cause) := by
  have failed : resolve bareGraph ⟨"a", "S"⟩ = faulty .absentOperation := by rfl
  have json : (Value.map bareGraph).IsJson := by
    simp [bareGraph, Value.IsJson, EntriesJson, Scalar.isJson]
  refine ⟨json, failed, ?_⟩
  rw [failed]
  rintro (⟨_, same⟩ | ⟨_, same⟩) <;> exact nomatch same

end Outcomes

end ServiceCli.Shape
