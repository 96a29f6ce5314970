import Mathlib.Data.List.TakeWhile
import ServiceCli.Proofs.Shape.Layer

/-!
References: the ids that denote them, and those that a shape makes through the targets of its
members. Main statements: an id denotes a reference exactly when the parts of the reference are
sound and the id is made of them; the references of a layer are those that the shape makes; a shape
asks for the types of no others; and it fails by itself or as one of its references does.
-/

set_option autoImplicit false
set_option relaxedAutoImplicit false

namespace ServiceCli.Shape.Ref

/-- The parts of a reference are sound when neither is empty, the scope holds no `#` and the name no
`$`. -/
structure IsSound (r : Ref) : Prop where
  scope_ne_empty : r.scope ≠ ""
  hash_not_mem_scope : '#' ∉ r.scope.toList
  name_ne_empty : r.name ≠ ""
  dollar_not_mem_name : '$' ∉ r.name.toList

@[simp] theorem toList_id (r : Ref) : r.id.toList = r.scope.toList ++ '#' :: r.name.toList := by
  simp [Ref.id]

theorem splitHash_append {scope name : List Char} (hashless : '#' ∉ scope) :
    splitHash (scope ++ '#' :: name) = some (scope, name) := by
  have passed : ∀ c ∈ scope, (c != '#') = true := fun c member =>
    bne_iff_ne.mpr (ne_of_mem_of_not_mem member hashless)
  simp [splitHash, List.dropWhile_append_of_pos passed, List.takeWhile_append_of_pos passed]

theorem splitHash_eq_some_iff {cs scope name : List Char} :
    splitHash cs = some (scope, name) ↔ '#' ∉ scope ∧ cs = scope ++ '#' :: name := by
  constructor
  · intro split
    unfold splitHash at split
    split at split
    · simp at split
    · rename_i c rest after
      obtain ⟨rfl, rfl⟩ := Prod.mk.inj (Option.some.inj split)
      obtain rfl : c = '#' := by
        have first := List.head?_dropWhile_not (· != '#') cs
        rw [after] at first
        simpa using first
      refine ⟨fun member => ?_, ?_⟩
      · simpa using List.mem_takeWhile_imp member
      · rw [← after, List.takeWhile_append_dropWhile]
  · rintro ⟨hashless, rfl⟩
    exact splitHash_append hashless

/-- An id denotes a reference exactly when the reference is sound and the id is its own. -/
theorem parse?_eq_some_iff {id : String} {r : Ref} :
    parse? id = some r ↔ r.IsSound ∧ r.id = id := by
  constructor
  · intro parsed
    unfold parse? at parsed
    split at parsed
    · rename_i scope name split
      obtain ⟨hashless, whole⟩ := splitHash_eq_some_iff.mp split
      split at parsed
      · simp at parsed
      · rename_i sound
        obtain rfl := Option.some.inj parsed
        simp only [Bool.or_eq_true, List.isEmpty_iff, List.contains_iff_mem, not_or] at sound
        obtain ⟨⟨begun, named⟩, memberless⟩ := sound
        refine ⟨⟨?_, ?_, ?_, ?_⟩, ?_⟩
        · simpa [String.ext_iff] using begun
        · simpa using hashless
        · simpa [String.ext_iff] using named
        · simpa using memberless
        · apply String.toList_inj.mp
          simp [whole]
    · simp at parsed
  · rintro ⟨sound, rfl⟩
    have begun : r.scope.toList ≠ [] := by simpa using sound.scope_ne_empty
    have named : r.name.toList ≠ [] := by simpa using sound.name_ne_empty
    simp [parse?, splitHash_append sound.hash_not_mem_scope, begun, named,
      sound.dollar_not_mem_name]

theorem id_of_parse? {id : String} {r : Ref} (parsed : parse? id = some r) : r.id = id :=
  (parse?_eq_some_iff.mp parsed).2

theorem IsSound.parse?_id {r : Ref} (sound : r.IsSound) : parse? r.id = some r :=
  parse?_eq_some_iff.mpr ⟨sound, rfl⟩

theorem exists_parse?_iff {id : String} :
    (∃ r, parse? id = some r) ↔ ∃ r : Ref, r.IsSound ∧ id = r.scope ++ "#" ++ r.name :=
  exists_congr fun _ => parse?_eq_some_iff.trans (and_congr_right fun _ => eq_comm)

theorem id_eq_iff_of_parse? {id other : String} {r s : Ref} (parsed : parse? id = some r)
    (also : parse? other = some s) : id = other ↔ r = s := by
  constructor
  · rintro rfl
    exact Option.some.inj (parsed.symm.trans also)
  · rintro rfl
    exact (id_of_parse? parsed).symm.trans (id_of_parse? also)

/-- A reference is canonical when its id denotes it again. -/
def IsCanonical (r : Ref) : Prop := parse? r.id = some r

theorem isCanonical_iff_isSound {r : Ref} : r.IsCanonical ↔ r.IsSound := by
  rw [IsCanonical, parse?_eq_some_iff, and_iff_left rfl]

theorem isCanonical_of_parse? {id : String} {r : Ref} (parsed : parse? id = some r) :
    r.IsCanonical :=
  isCanonical_iff_isSound.mpr (parse?_eq_some_iff.mp parsed).1

theorem IsCanonical.eq_of_id_eq {r s : Ref} (canonical : r.IsCanonical) (other : s.IsCanonical)
    (same : r.id = s.id) : r = s :=
  (id_eq_iff_of_parse? canonical other).mp same

end ServiceCli.Shape.Ref

namespace ServiceCli.Shape

open ServiceCli.Data

theorem refOf_eq_ok_iff {v : Value} {r : Ref} : refOf v = .ok r ↔ r.IsSound ∧ v = .str r.id := by
  rw [refOf_eq_ok]
  constructor
  · rintro ⟨id, rfl, parsed⟩
    obtain ⟨sound, rfl⟩ := Ref.parse?_eq_some_iff.mp parsed
    exact ⟨sound, rfl⟩
  · rintro ⟨sound, rfl⟩
    exact ⟨r.id, rfl, sound.parse?_id⟩

theorem refOf_refuses {id : String}
    (other : ¬ ∃ r : Ref, r.IsSound ∧ id = r.scope ++ "#" ++ r.name) :
    refOf (.str id) = refuse (.invalidId id) := by
  have none : Ref.parse? id = none :=
    Option.eq_none_iff_forall_ne_some.mpr (not_exists.mp (mt Ref.exists_parse?_iff.mp other))
  simp [refOf, none]

/-- The values of a mapping of members, none where there is no mapping. -/
def memberValues : Value → List Value
  | .map members => members.map Prod.snd
  | _ => []

/-- The members through which a shape refers to others: the member of a list, the key and the value
of a map, the members of a structure. -/
def referringMembers (shape : Entries) : List Value :=
  match Value.field shape "type" with
  | .str "list" => [Value.field shape "member"]
  | .str "set" => [Value.field shape "member"]
  | .str "map" => [Value.field shape "key", Value.field shape "value"]
  | .str "structure" => memberValues (Value.field shape "members")
  | _ => []

/-- A shape refers to a shape when one of its members does. -/
def ShapeRefers (shape : Entries) (t : Ref) : Prop := ∃ m ∈ referringMembers shape, Targets m t

section References

variable {unfold other : Ref → Outcome TypeTree} {id : String} {shape : Entries}

theorem Targets.unique {member : Value} {t u : Ref} (targets : Targets member t)
    (also : Targets member u) : t = u := by
  obtain ⟨s, target, parsed⟩ := targets
  obtain ⟨s', target', parsed'⟩ := also
  obtain rfl : s = s' := by simpa [target] using target'
  exact Option.some.inj (parsed.symm.trans parsed')

theorem memberValues_of_orEmpty {v : Value} {members : Entries}
    (filled : orEmpty v = .map members) : memberValues v = members.map Prod.snd := by
  unfold orEmpty Value.orElse at filled
  split at filled
  · rw [filled, memberValues]
  · rename_i empty
    obtain rfl := Value.map.inj filled
    cases v with
    | map entries => simpa [Value.isTruthy, memberValues] using empty
    | _ => rfl

private theorem describes_refers {members : Entries} {parts : List (Ref × Field)}
    (all : List.Forall₂ (fun m p => Describes m.1 m.2 p.1 p.2) members parts) (t : Ref) :
    t ∈ parts.map Prod.fst ↔ ∃ m ∈ members.map Prod.snd, Targets m t := by
  induction all with
  | nil => simp
  | cons describes _ ih =>
    have own : ∀ u, u = _ ↔ Targets _ u := fun u =>
      ⟨fun equal => equal ▸ describes.targets, fun targets => targets.unique describes.targets⟩
    simp only [List.map_cons, List.mem_cons, exists_eq_or_imp, ih, own]

theorem Layer.refers {parts : List (Ref × TypeTree)} {d : TypeTree} (layer : Layer shape parts d)
    (t : Ref) : t ∈ parts.map Prod.fst ↔ ShapeRefers shape t := by
  cases layer with
  | blob kind _ => simp [ShapeRefers, referringMembers, kind]
  | list either kind part targets =>
    have own : t = _ ↔ Targets _ t :=
      ⟨fun equal => equal ▸ targets, fun also => also.unique targets⟩
    rcases either with rfl | rfl <;> simp [ShapeRefers, referringMembers, kind, part, own]
  | map kind describesKey describesValue =>
    have key : t = _ ↔ Targets _ t :=
      ⟨fun equal => equal ▸ describesKey.targets, fun also => also.unique describesKey.targets⟩
    have value : t = _ ↔ Targets _ t :=
      ⟨fun equal => equal ▸ describesValue.targets,
        fun also => also.unique describesValue.targets⟩
    simp [ShapeRefers, referringMembers, kind, key, value]
  | «structure» kind filled all =>
    have refers := describes_refers all t
    simp only [ShapeRefers, referringMembers, kind, memberValues_of_orEmpty filled]
    simpa [Function.comp_def] using refers
  | document kind => simp [ShapeRefers, referringMembers, kind]

private theorem fieldFor_congr {name : Key} {member : Value}
    (agree : ∀ t, Targets member t → unfold t = other t) :
    fieldFor unfold id name member = fieldFor other id name member := by
  cases target : memberRef member id with
  | error e => simp [fieldFor, target, bind, Except.bind]
  | ok t => simp [fieldFor, target, agree t (memberRef_eq_ok.mp target)]

private theorem fieldsFor_congr {members : Entries}
    (agree : ∀ m ∈ members, ∀ t, Targets m.2 t → unfold t = other t) :
    fieldsFor unfold id members = fieldsFor other id members := by
  induction members with
  | nil => rfl
  | cons m members ih =>
    rw [fieldsFor, fieldsFor, fieldFor_congr (agree m List.mem_cons_self),
      ih fun m' member => agree m' (List.mem_cons_of_mem m member)]

private theorem listType_congr
    (agree : ∀ t, Targets (Value.field shape "member") t → unfold t = other t) :
    (do
      let member ← partOf shape "member" id
      return TypeTree.list (← unfold (← memberRef member id)))
    = do
      let member ← partOf shape "member" id
      return TypeTree.list (← other (← memberRef member id)) := by
  cases part : partOf shape "member" id with
  | error e => rfl
  | ok member =>
    obtain ⟨rfl, -⟩ := partOf_eq_ok.mp part
    cases target : memberRef (Value.field shape "member") id with
    | error e => simp only [Outcome.ok_bind, target]; rfl
    | ok t => simp only [Outcome.ok_bind, target, agree t (memberRef_eq_ok.mp target)]

/-- A shape asks for the types of no other references than those it makes. -/
theorem unfoldShape_congr (agree : ∀ t, ShapeRefers shape t → unfold t = other t) :
    unfoldShape unfold id shape = unfoldShape other id shape := by
  have within (m : Value) (member : m ∈ referringMembers shape) (t : Ref) (targets : Targets m t) :
      unfold t = other t := agree t ⟨m, member, targets⟩
  unfold referringMembers at within
  unfold unfoldShape
  split
  · rfl
  · rename_i kind
    simp only [kind, List.mem_singleton, forall_eq] at within
    exact listType_congr within
  · rename_i kind
    simp only [kind, List.mem_singleton, forall_eq] at within
    exact listType_congr within
  · rename_i kind
    simp only [kind, List.mem_cons, List.not_mem_nil, or_false, forall_eq_or_imp,
      forall_eq] at within
    cases partKey : partOf shape "key" id with
    | error e => rfl
    | ok key =>
      cases partValue : partOf shape "value" id with
      | error e => rfl
      | ok value =>
        obtain ⟨rfl, -⟩ := partOf_eq_ok.mp partKey
        obtain ⟨rfl, -⟩ := partOf_eq_ok.mp partValue
        simp only [Outcome.ok_bind, fieldFor_congr within.1, fieldFor_congr within.2]
  · rename_i kind
    simp only [kind] at within
    cases filled : entriesOf (orEmpty (Value.field shape "members")) with
    | error e => rfl
    | ok members =>
      rw [memberValues_of_orEmpty (entriesOf_eq_ok.mp filled)] at within
      simp only [List.mem_map, forall_exists_index, and_imp, forall_apply_eq_imp_iff₂] at within
      simp only [Outcome.ok_bind, fieldsFor_congr within]
  · rfl
  · rfl

end References

section Failures

variable {unfold : Ref → Outcome TypeTree} {id owner : String} {shape : Entries}
variable {name : Key} {member v : Value} {e : Failure}

/-- A failure that a shape itself gives rise to: it tells of no cycle and of no endless nesting. -/
structure IsLocal (e : Failure) : Prop where
  not_cyclic : ∀ chain, e ≠ .schema (.cyclic chain)
  not_endless : e ≠ .fault .endlessNesting

private theorem isLocal_of_faulty {α : Type} {f : Fault} (other : f ≠ .endlessNesting)
    (failed : (faulty f : Outcome α) = .error e) : IsLocal e := by
  obtain rfl := Except.error.inj failed
  exact ⟨by simp, by simpa using other⟩

theorem isLocal_of_refuse {α : Type} {cause : SchemaError}
    (other : ∀ chain, cause ≠ .cyclic chain) (failed : (refuse cause : Outcome α) = .error e) :
    IsLocal e := by
  obtain rfl := Except.error.inj failed
  exact ⟨by simpa using other, by simp⟩

private theorem entriesOf_eq_error (failed : entriesOf v = .error e) : IsLocal e := by
  cases v with
  | map entries => simp [entriesOf] at failed
  | _ => exact isLocal_of_faulty (by simp) failed

private theorem fieldOf_eq_error {n : String} (failed : fieldOf v n = .error e) : IsLocal e := by
  exact entriesOf_eq_error (Outcome.return_eq_error.mp failed)

private theorem mentions_eq_error {n : String} (failed : mentions n v = .error e) :
    IsLocal e := by
  unfold mentions at failed
  split at failed
  all_goals try simp only [reduceCtorEq] at failed
  exact isLocal_of_faulty (by simp) failed

private theorem textOf_eq_error (failed : textOf v = .error e) : IsLocal e := by
  unfold textOf at failed
  split at failed
  · simp at failed
  · split at failed
    · simp at failed
    · exact isLocal_of_faulty (by simp) failed
  · exact isLocal_of_faulty (by simp) failed

private theorem nameOf_eq_error (failed : nameOf name = .error e) : IsLocal e := by
  unfold nameOf at failed
  split at failed
  · exact textOf_eq_error failed
  · exact isLocal_of_faulty (by simp) failed

private theorem documentationOf_eq_error (failed : documentationOf v = .error e) : IsLocal e := by
  exact fieldOf_eq_error (Outcome.return_eq_error.mp failed)

private theorem refOf_eq_error (failed : refOf v = .error e) : IsLocal e := by
  unfold refOf at failed
  split at failed
  · split at failed
    · simp at failed
    · exact isLocal_of_refuse (by simp) failed
  · exact isLocal_of_faulty (by simp) failed
  · exact isLocal_of_faulty (by simp) failed

private theorem memberRef_eq_error (failed : memberRef member owner = .error e) : IsLocal e := by
  unfold memberRef at failed
  dsimp only at failed
  split at failed
  · exact refOf_eq_error failed
  · exact isLocal_of_refuse (by simp) failed

private theorem partOf_eq_error {part : String} (failed : partOf shape part id = .error e) :
    IsLocal e := by
  unfold partOf at failed
  split at failed
  · simp at failed
  · exact isLocal_of_refuse (by simp) failed

private theorem fieldFor_eq_error (failed : fieldFor unfold owner name member = .error e) :
    (∃ t, Targets member t ∧ unfold t = .error e) ∨ IsLocal e := by
  rcases Outcome.bind_eq_error.mp failed with failed | ⟨_, _, failed⟩
  · exact Or.inr (fieldOf_eq_error failed)
  rcases Outcome.bind_eq_error.mp failed with failed | ⟨t, target, failed⟩
  · exact Or.inr (memberRef_eq_error failed)
  rcases Outcome.bind_eq_error.mp failed with failed | ⟨_, _, failed⟩
  · exact Or.inl ⟨t, memberRef_eq_ok.mp target, failed⟩
  rcases Outcome.bind_eq_error.mp failed with failed | ⟨_, _, failed⟩
  · exact Or.inr (mentions_eq_error failed)
  rcases Outcome.bind_eq_error.mp failed with failed | ⟨_, _, failed⟩
  · exact Or.inr (documentationOf_eq_error failed)
  rcases Outcome.bind_eq_error.mp failed with failed | ⟨_, _, failed⟩
  · exact Or.inr (mentions_eq_error failed)
  rcases Outcome.bind_eq_error.mp failed with failed | ⟨_, _, failed⟩
  · exact Or.inr (nameOf_eq_error failed)
  exact Or.inr (textOf_eq_error (Outcome.return_eq_error.mp failed))

private theorem fieldsFor_eq_error {members : Entries}
    (failed : fieldsFor unfold owner members = .error e) :
    (∃ m ∈ members, ∃ t, Targets m.2 t ∧ unfold t = .error e) ∨ IsLocal e := by
  induction members with
  | nil => simp [fieldsFor] at failed
  | cons m members ih =>
    rcases Outcome.bind_eq_error.mp failed with failed | ⟨_, _, failed⟩
    · rcases fieldFor_eq_error failed with ⟨t, targets, failed⟩ | own
      · exact Or.inl ⟨m, List.mem_cons_self, t, targets, failed⟩
      · exact Or.inr own
    rcases ih (Outcome.return_eq_error.mp failed) with ⟨m', member, found⟩ | own
    · exact Or.inl ⟨m', List.mem_cons_of_mem m member, found⟩
    · exact Or.inr own

private theorem listType_eq_error
    (failed : (do
      let member ← partOf shape "member" id
      return TypeTree.list (← unfold (← memberRef member id))) = .error e) :
    (∃ t, Targets (Value.field shape "member") t ∧ unfold t = .error e) ∨ IsLocal e := by
  rcases Outcome.bind_eq_error.mp failed with failed | ⟨member, part, failed⟩
  · exact Or.inr (partOf_eq_error failed)
  obtain ⟨rfl, -⟩ := partOf_eq_ok.mp part
  rcases Outcome.bind_eq_error.mp failed with failed | ⟨t, target, failed⟩
  · exact Or.inr (memberRef_eq_error failed)
  exact Or.inl ⟨t, memberRef_eq_ok.mp target, Outcome.return_eq_error.mp failed⟩

theorem unfoldShape_eq_error (failed : unfoldShape unfold id shape = .error e) :
    (∃ t, ShapeRefers shape t ∧ unfold t = .error e) ∨ IsLocal e := by
  suffices (∃ m ∈ referringMembers shape, ∃ t, Targets m t ∧ unfold t = .error e) ∨ IsLocal e by
    rcases this with ⟨m, member, t, targets, failed⟩ | own
    · exact Or.inl ⟨t, ⟨m, member, targets⟩, failed⟩
    · exact Or.inr own
  unfold referringMembers
  unfold unfoldShape at failed
  split at failed
  · exact Or.inr (mentions_eq_error (Outcome.return_eq_error.mp failed))
  · rename_i kind
    simpa [kind] using listType_eq_error failed
  · rename_i kind
    simpa [kind] using listType_eq_error failed
  · rename_i kind
    simp only [kind, List.mem_cons, List.not_mem_nil, or_false, exists_eq_or_imp, exists_eq_left]
    rcases Outcome.bind_eq_error.mp failed with failed | ⟨_, partKey, failed⟩
    · exact Or.inr (partOf_eq_error failed)
    rcases Outcome.bind_eq_error.mp failed with failed | ⟨_, partValue, failed⟩
    · exact Or.inr (partOf_eq_error failed)
    obtain ⟨rfl, -⟩ := partOf_eq_ok.mp partKey
    obtain ⟨rfl, -⟩ := partOf_eq_ok.mp partValue
    rcases Outcome.bind_eq_error.mp failed with failed | ⟨_, _, failed⟩
    · exact (fieldFor_eq_error failed).imp_left Or.inl
    exact (fieldFor_eq_error (Outcome.return_eq_error.mp failed)).imp_left Or.inr
  · rename_i kind
    simp only [kind]
    rcases Outcome.bind_eq_error.mp failed with failed | ⟨members, filled, failed⟩
    · exact Or.inr (entriesOf_eq_error failed)
    rw [memberValues_of_orEmpty (entriesOf_eq_ok.mp filled)]
    rcases fieldsFor_eq_error (Outcome.return_eq_error.mp failed) with ⟨m, member, found⟩ | own
    · exact Or.inl ⟨m.2, List.mem_map.mpr ⟨m, member, rfl⟩, found⟩
    · exact Or.inr own
  · simp at failed
  · exact Or.inr (isLocal_of_refuse (by simp) failed)

end Failures

section Described

variable {unfold : Ref → Outcome TypeTree} {id : String} {shape : Entries} {e : Failure}

private theorem Describes.fieldFor_eq_error {name : Key} {member : Value} {t : Ref} {f : Field}
    (describes : Describes name member t f) (failed : fieldFor unfold id name member = .error e) :
    unfold t = .error e := by
  cases unfolds : unfold t with
  | ok type =>
    have described : Describes name member t { f with type := type } :=
      ⟨describes.named, describes.targets, describes.traits⟩
    rw [fieldFor_eq_ok.mpr ⟨t, described, unfolds⟩] at failed
    simp at failed
  | error cause =>
    obtain ⟨entries, _, rfl, _⟩ := describes.traits
    have target : memberRef (.map entries) id = .ok t := memberRef_eq_ok.mpr describes.targets
    simpa [fieldFor, fieldOf, entriesOf, target, unfolds, bind, Except.bind, pure,
      Except.pure] using failed

private theorem fieldsFor_described {members : Entries} {parts : List (Ref × Field)}
    (all : List.Forall₂ (fun m p => Describes m.1 m.2 p.1 p.2) members parts)
    (failed : fieldsFor unfold id members = .error e) : ∃ p ∈ parts, unfold p.1 = .error e := by
  induction all with
  | nil => simp [fieldsFor] at failed
  | cons describes _ ih =>
    rcases Outcome.bind_eq_error.mp failed with failed | ⟨_, _, failed⟩
    · exact ⟨_, List.mem_cons_self, describes.fieldFor_eq_error failed⟩
    obtain ⟨p, member, failed⟩ := ih (Outcome.return_eq_error.mp failed)
    exact ⟨p, List.mem_cons_of_mem _ member, failed⟩

theorem Layer.unfoldShape_eq_error {parts : List (Ref × TypeTree)} {d : TypeTree}
    (layer : Layer shape parts d) (failed : unfoldShape unfold id shape = .error e) :
    ∃ p ∈ parts, unfold p.1 = .error e := by
  cases layer with
  | blob kind marked => simp [unfoldShape, kind, marked] at failed
  | @list _ entries t _ either kind part targets =>
    have target : memberRef (.map entries) id = .ok t := memberRef_eq_ok.mpr targets
    have failed : (do return TypeTree.list (← unfold t)) = .error e := by
      rcases either with rfl | rfl <;>
        simpa only [unfoldShape, kind, partOf, part, target, Outcome.ok_bind] using failed
    exact ⟨_, List.mem_cons_self, Outcome.return_eq_error.mp failed⟩
  | map kind describesKey describesValue =>
    have partKey : partOf shape "key" id = .ok (Value.field shape "key") :=
      partOf_eq_ok.mpr ⟨rfl, describesKey.isMap⟩
    have partValue : partOf shape "value" id = .ok (Value.field shape "value") :=
      partOf_eq_ok.mpr ⟨rfl, describesValue.isMap⟩
    simp only [unfoldShape, kind, partKey, partValue, Outcome.ok_bind] at failed
    rcases Outcome.bind_eq_error.mp failed with failed | ⟨_, _, failed⟩
    · exact ⟨_, List.mem_cons_self, describesKey.fieldFor_eq_error failed⟩
    have untold := describesValue.fieldFor_eq_error (Outcome.return_eq_error.mp failed)
    exact ⟨_, List.mem_cons_of_mem _ List.mem_cons_self, untold⟩
  | «structure» kind filled all =>
    simp only [unfoldShape, kind, filled, entriesOf, Outcome.ok_bind] at failed
    obtain ⟨p, member, failed⟩ := fieldsFor_described all (Outcome.return_eq_error.mp failed)
    exact ⟨_, List.mem_map.mpr ⟨p, member, rfl⟩, failed⟩
  | document kind => simp [unfoldShape, kind] at failed

end Described

end ServiceCli.Shape
