import ServiceCli.Proofs.Shape.Reference

set_option autoImplicit false
set_option relaxedAutoImplicit false

namespace ServiceCli.Shape

open ServiceCli.Data
open Outcome (bind_eq_ok bind_eq_error pure_eq_ok return_eq_error)

/-! ### Parts of the wrong kind -/

/-- A value that names can be looked for in, and that has no fields. -/
def IsListed : Value → Prop
  | .list _ => True
  | .tuple _ => True
  | .set _ => True
  | .atom (.str _) => True
  | _ => False

/-- A value that names cannot be looked for in. -/
def IsPlain (v : Value) : Prop := ¬IsListed v ∧ ∀ entries, v ≠ .map entries

/-- A target that is given and is no text. -/
inductive TargetMisfit (v : Value) : Fault → Prop
  | bytes {bs : List UInt8} : v = .bytes bs → bs ≠ [] → TargetMisfit v .wrongKind
  | other : v.isTruthy = true → (∀ s, v ≠ .str s) → (∀ bs, v ≠ .bytes bs) →
    TargetMisfit v .absentOperation

/-- Traits that are no mapping. -/
inductive TraitsMisfit (v : Value) : Fault → Prop
  | listed : IsListed v → TraitsMisfit v .absentOperation
  | plain : IsPlain v → TraitsMisfit v .wrongKind

/-- Which types references unfold to. -/
abbrev Unfolding := Ref → TypeTree → Prop

/-- A member is of a kind that nothing provides for: itself, its target, its traits once its target
unfolds, or its name or documentation. -/
inductive MemberMisfit (unfolds : Unfolding) (name : Key) (member : Value) : Fault → Prop
  | unmapped : (∀ entries, member ≠ .map entries) →
    MemberMisfit unfolds name member .absentOperation
  | target {f : Fault} : TargetMisfit (targetOf member) f → MemberMisfit unfolds name member f
  | traits {entries : Entries} {t : Ref} {d : TypeTree} {f : Fault} : member = .map entries →
    Targets member t → unfolds t d → TraitsMisfit (traitsOf entries) f →
    MemberMisfit unfolds name member f
  | wording {entries traits : Entries} {t : Ref} {d : TypeTree} : member = .map entries →
    Targets member t → unfolds t d → traitsOf entries = .map traits →
    (∀ s, nameOf name ≠ .ok s) ∨
      (∀ s, textOf ((Value.field traits documentationTrait).orElse (.str "")) ≠ .ok s) →
    MemberMisfit unfolds name member .wrongFieldKind

/-- A member describes a field of a type that its target unfolds to. -/
def Fits (unfolds : Unfolding) (name : Key) (member : Value) : Prop :=
  ∃ t f, Describes name member t f ∧ unfolds t f.type

/-- The named parts of a map or of a structure, in order. -/
inductive HasParts (shape : Entries) : List (Key × Value) → Prop
  | map {key value : Entries} : Value.field shape "type" = .str "map" →
    Value.field shape "key" = .map key → Value.field shape "value" = .map value →
    HasParts shape [(.str "key", .map key), (.str "value", .map value)]
  | structure {members : Entries} : Value.field shape "type" = .str "structure" →
    orEmpty (Value.field shape "members") = .map members → HasParts shape members

def HasMember (shape entries : Entries) : Prop :=
  (Value.field shape "type" = .str "list" ∨ Value.field shape "type" = .str "set") ∧
    Value.field shape "member" = .map entries

/-- A shape is of a kind that nothing provides for, by itself or by one of its parts behind parts
that fit. -/
inductive ShapeMisfit (unfolds : Unfolding) (shape : Entries) : Fault → Prop
  | blob : Value.field shape "type" = .str "blob" → IsPlain (traitsOf shape) →
    ShapeMisfit unfolds shape .wrongKind
  | member {entries : Entries} {f : Fault} : HasMember shape entries →
    TargetMisfit (Value.field entries "target") f → ShapeMisfit unfolds shape f
  | members : Value.field shape "type" = .str "structure" →
    (∀ entries, orEmpty (Value.field shape "members") ≠ .map entries) →
    ShapeMisfit unfolds shape .absentOperation
  | part {before after : List (Key × Value)} {name : Key} {member : Value} {f : Fault} :
    HasParts shape (before ++ (name, member) :: after) →
    (∀ p ∈ before, Fits unfolds p.1 p.2) → MemberMisfit unfolds name member f →
    ShapeMisfit unfolds shape f

/-- A shape asks for the type of a reference: the target of its member, or of a part behind parts
that fit. -/
inductive ShapeAsks (unfolds : Unfolding) (shape : Entries) : Ref → Prop
  | member {entries : Entries} {t : Ref} : HasMember shape entries → Targets (.map entries) t →
    ShapeAsks unfolds shape t
  | part {before after : List (Key × Value)} {name : Key} {member : Value} {t : Ref} :
    HasParts shape (before ++ (name, member) :: after) →
    (∀ p ∈ before, Fits unfolds p.1 p.2) → Targets member t → ShapeAsks unfolds shape t

section Access

variable {v : Value} {f : Fault}

theorem faulty_eq_faulty {α : Type} {f g : Fault} : (faulty f : Outcome α) = faulty g ↔ f = g := by
  simp [faulty]

theorem bind_eq_faulty {α β : Type} {x : Outcome α} {k : α → Outcome β} :
    x >>= k = faulty f ↔ x = faulty f ∨ ∃ a, x = .ok a ∧ k a = faulty f := bind_eq_error

theorem entriesOf_eq_faulty :
    entriesOf v = faulty f ↔ (∀ entries, v ≠ .map entries) ∧ f = .absentOperation := by
  cases v <;> simp [entriesOf, faulty, eq_comm]

theorem mentions_eq_faulty {name : String} :
    mentions name v = faulty f ↔ IsPlain v ∧ f = .wrongKind := by
  cases v with
  | atom a => cases a <;> simp [mentions, faulty, IsPlain, IsListed, eq_comm]
  | _ => simp [mentions, faulty, IsPlain, IsListed, eq_comm]

theorem refOf_eq_faulty (given : v.isTruthy = true) : refOf v = faulty f ↔ TargetMisfit v f := by
  constructor
  · intro failed
    rw [refOf.eq_def] at failed
    split at failed
    · split at failed <;> exact nomatch failed
    · rename_i bs
      obtain rfl := faulty_eq_faulty.mp failed
      refine .bytes rfl ?_
      rintro rfl
      exact nomatch given
    · rename_i untext unbytes
      obtain rfl := faulty_eq_faulty.mp failed
      exact .other given untext unbytes
  · rintro (⟨rfl, -⟩ | ⟨-, untext, unbytes⟩)
    · rfl
    · rw [refOf.eq_def]
      split
      · exact absurd rfl (untext _)
      · exact absurd rfl (unbytes _)
      · rfl

theorem TargetMisfit.isTruthy (misfit : TargetMisfit v f) : v.isTruthy = true := by
  cases misfit with
  | bytes same filled =>
    rw [same]
    simpa [Value.isTruthy, Scalar.isTruthy] using filled
  | other given => exact given

theorem memberRef_eq_faulty {member : Value} {owner : String} :
    memberRef member owner = faulty f ↔ TargetMisfit (targetOf member) f := by
  rw [memberRef]
  by_cases given : (targetOf member).isTruthy = true
  · rw [if_pos given, refOf_eq_faulty given]
  · rw [if_neg given]
    exact iff_of_false nofun fun misfit => given misfit.isTruthy

theorem textOf_eq_faulty :
    textOf v = faulty f ↔ (∀ s, textOf v ≠ .ok s) ∧ f = .wrongFieldKind := by
  rw [textOf.eq_def]
  split
  · exact iff_of_false nofun fun other => other.1 _ rfl
  · split
    · exact iff_of_false nofun fun other => other.1 _ rfl
    · simp [faulty, eq_comm]
  · simp [faulty, eq_comm]

theorem nameOf_eq_faulty {name : Key} :
    nameOf name = faulty f ↔ (∀ s, nameOf name ≠ .ok s) ∧ f = .wrongFieldKind := by
  cases name with
  | atom a => exact textOf_eq_faulty
  | _ => simp [nameOf, faulty, eq_comm]

theorem documentationOf_eq_faulty :
    documentationOf v = faulty f ↔ (∀ entries, v ≠ .map entries) ∧ f = .absentOperation := by
  cases v <;> simp [documentationOf, fieldOf, entriesOf, faulty, eq_comm, bind, Except.bind, pure,
    Except.pure]

theorem isListed_of_mentions {name : String} {b : Bool} (told : mentions name v = .ok b)
    (unmapped : ∀ entries, v ≠ .map entries) : IsListed v := by
  by_contra unlisted
  have plain : mentions name v = faulty .wrongKind :=
    mentions_eq_faulty.mpr ⟨⟨unlisted, unmapped⟩, rfl⟩
  exact nomatch told.symm.trans plain

theorem mentions_of_isListed (listed : IsListed v) (name : String) :
    ∃ b, mentions name v = .ok b := by
  cases v with
  | atom a =>
    cases a with
    | str s => exact ⟨_, rfl⟩
    | _ => exact listed.elim
  | list items => exact ⟨_, rfl⟩
  | tuple items => exact ⟨_, rfl⟩
  | set items => exact ⟨_, rfl⟩
  | _ => exact listed.elim

theorem IsListed.unmapped (listed : IsListed v) : ∀ entries, v ≠ .map entries := by
  rintro entries rfl
  exact listed

theorem Targets.isMap {member : Value} {t : Ref} (targets : Targets member t) :
    ∃ entries, member = .map entries := by
  obtain ⟨id, target, -⟩ := targets
  cases member with
  | map entries => exact ⟨entries, rfl⟩
  | _ => exact nomatch target

end Access

section Member

variable {unfold : Ref → Outcome TypeTree} {owner : String} {name : Key} {member : Value}
variable {f : Fault}

/-- The types that a partial unfolding gives. -/
def given (unfold : Ref → Outcome TypeTree) : Unfolding := fun t d => unfold t = .ok d

/-- What is made of a member whose target unfolds to a type. -/
def fieldOfType (name : Key) (traits : Value) (type : TypeTree) : Outcome Field := do
  let required ← mentions requiredTrait traits
  let documentation ← documentationOf traits
  let isPayload ← mentions payloadTrait traits
  return ⟨← nameOf name, type, required, ← textOf documentation, isPayload⟩

theorem fieldFor_of_targets {entries : Entries} {t : Ref} (targets : Targets (.map entries) t) :
    fieldFor unfold owner name (.map entries)
      = unfold t >>= fieldOfType name (traitsOf entries) := by
  have target : memberRef (.map entries) owner = .ok t := memberRef_eq_ok.mpr targets
  rw [fieldFor, fieldOf, entriesOf, Outcome.ok_bind, target]
  rfl

theorem fieldOfType_map (name : Key) (entries : Entries) (type : TypeTree) :
    fieldOfType name (.map entries) type = (do
      return ⟨← nameOf name, type, (entries.get? requiredTrait).isSome,
        ← textOf ((Value.field entries documentationTrait).orElse (.str "")),
        (entries.get? payloadTrait).isSome⟩) := rfl

theorem fieldOfType_eq_faulty {traits : Value} {type : TypeTree} :
    fieldOfType name traits type = faulty f ↔ TraitsMisfit traits f ∨
      ∃ entries, traits = .map entries ∧ f = .wrongFieldKind ∧
        ((∀ s, nameOf name ≠ .ok s) ∨
          ∀ s, textOf ((Value.field entries documentationTrait).orElse (.str "")) ≠ .ok s) := by
  constructor
  · intro failed
    rcases bind_eq_faulty.mp failed with unmarked | ⟨required, marked, failed⟩
    · obtain ⟨plain, rfl⟩ := mentions_eq_faulty.mp unmarked
      exact .inl (.plain plain)
    rcases bind_eq_faulty.mp failed with untold | ⟨documentation, told, failed⟩
    · obtain ⟨unmapped, rfl⟩ := documentationOf_eq_faulty.mp untold
      exact .inl (.listed (isListed_of_mentions marked unmapped))
    obtain ⟨entries, rfl, rfl⟩ := documentationOf_eq_ok.mp told
    rcases bind_eq_faulty.mp failed with unmarked | ⟨payload, sent, failed⟩
    · exact nomatch unmarked
    rcases bind_eq_faulty.mp failed with unnamed | ⟨n, named, failed⟩
    · obtain ⟨untext, rfl⟩ := nameOf_eq_faulty.mp unnamed
      exact .inr ⟨entries, rfl, rfl, .inl untext⟩
    obtain ⟨untext, rfl⟩ := textOf_eq_faulty.mp (return_eq_error.mp failed)
    exact .inr ⟨entries, rfl, rfl, .inr untext⟩
  · rintro ((listed | plain) | ⟨entries, rfl, rfl, untext⟩)
    · obtain ⟨b, marked⟩ := mentions_of_isListed listed requiredTrait
      rw [fieldOfType, marked, Outcome.ok_bind,
        documentationOf_eq_faulty.mpr ⟨listed.unmapped, rfl⟩]
      rfl
    · rw [fieldOfType, mentions_eq_faulty.mpr ⟨plain, rfl⟩]
      rfl
    · rw [fieldOfType_map]
      by_cases named : ∃ n, nameOf name = .ok n
      · obtain ⟨n, named⟩ := named
        have untold := untext.resolve_left fun unnamed => unnamed n named
        rw [named, Outcome.ok_bind, textOf_eq_faulty.mpr ⟨untold, rfl⟩]
        rfl
      · rw [nameOf_eq_faulty.mpr ⟨not_exists.mp named, rfl⟩]
        rfl

theorem fieldFor_eq_faulty : fieldFor unfold owner name member = faulty f ↔
    (∃ t, Targets member t ∧ unfold t = faulty f) ∨ MemberMisfit (given unfold) name member f := by
  constructor
  · intro failed
    -- in the order of the reader: the member, its target, the type of that, the traits and texts
    rcases bind_eq_faulty.mp failed with unmapped | ⟨_, mapped, failed⟩
    · obtain ⟨other, rfl⟩ := entriesOf_eq_faulty.mp (return_eq_error.mp unmapped)
      exact .inr (.unmapped other)
    obtain ⟨entries, rfl, rfl⟩ := fieldOf_eq_ok.mp mapped
    rcases bind_eq_faulty.mp failed with untargeted | ⟨t, targets, failed⟩
    · exact .inr (.target (memberRef_eq_faulty.mp untargeted))
    have targets := memberRef_eq_ok.mp targets
    rcases bind_eq_faulty.mp failed with failed | ⟨d, unfolds, failed⟩
    · exact .inl ⟨t, targets, failed⟩
    rcases fieldOfType_eq_faulty.mp failed with misfit | ⟨traits, filled, rfl, untext⟩
    · exact .inr (.traits rfl targets unfolds misfit)
    · exact .inr (.wording rfl targets unfolds filled untext)
  · rintro (⟨t, targets, failed⟩ | misfit)
    · obtain ⟨entries, rfl⟩ := targets.isMap
      rw [fieldFor_of_targets targets, failed]
      rfl
    cases misfit with
    | unmapped other =>
      have unmapped : entriesOf member = faulty .absentOperation :=
        entriesOf_eq_faulty.mpr ⟨other, rfl⟩
      rw [fieldFor, fieldOf, unmapped]
      rfl
    | target misfit =>
      obtain ⟨entries, rfl⟩ : ∃ entries, member = .map entries := by
        cases member with
        | map entries => exact ⟨entries, rfl⟩
        | _ => cases misfit.isTruthy
      have untargeted : memberRef (.map entries) owner = faulty f := memberRef_eq_faulty.mpr misfit
      rw [fieldFor, fieldOf, entriesOf, Outcome.ok_bind, untargeted]
      rfl
    | traits mapped targets unfolds misfit =>
      subst mapped
      rw [fieldFor_of_targets targets, show unfold _ = _ from unfolds, Outcome.ok_bind]
      exact fieldOfType_eq_faulty.mpr (.inl misfit)
    | wording mapped targets unfolds filled untext =>
      subst mapped
      rw [fieldFor_of_targets targets, show unfold _ = _ from unfolds, Outcome.ok_bind]
      exact fieldOfType_eq_faulty.mpr (.inr ⟨_, filled, rfl, untext⟩)

theorem fits_iff : Fits (given unfold) name member ↔
    ∃ field, fieldFor unfold owner name member = .ok field := by
  simp only [fieldFor_eq_ok, Fits, given]
  exact exists_comm

theorem fieldsFor_eq_faulty {members : List (Key × Value)} :
    fieldsFor unfold owner members = faulty f ↔ ∃ before name member after,
      members = before ++ (name, member) :: after ∧
      (∀ p ∈ before, Fits (given unfold) p.1 p.2) ∧
      fieldFor unfold owner name member = faulty f := by
  induction members with
  | nil =>
    refine iff_of_false nofun ?_
    rintro ⟨before, name, member, after, same, -⟩
    simp at same
  | cons first members ih =>
    obtain ⟨n, m⟩ := first
    constructor
    · intro failed
      rcases bind_eq_faulty.mp failed with own | ⟨field, made, failed⟩
      · exact ⟨[], n, m, members, rfl, nofun, own⟩
      obtain ⟨before, name, member, after, rfl, fit, failed⟩ :=
        ih.mp (return_eq_error.mp failed)
      exact ⟨(n, m) :: before, name, member, after, rfl,
        List.forall_mem_cons.mpr ⟨fits_iff.mpr ⟨field, made⟩, fit⟩, failed⟩
    · rintro ⟨before, name, member, after, same, fit, failed⟩
      cases before with
      | nil =>
        cases same
        rw [fieldsFor, failed]
        rfl
      | cons p before =>
        cases same
        obtain ⟨own, fit⟩ := List.forall_mem_cons.mp fit
        obtain ⟨field, made⟩ : ∃ field, fieldFor unfold owner n m = .ok field := fits_iff.mp own
        have later := ih.mpr ⟨before, name, member, after, rfl, fit, failed⟩
        rw [fieldsFor, made, Outcome.ok_bind, later]
        rfl

end Member

section Shape

variable {unfold : Ref → Outcome TypeTree} {id : String} {shape : Entries} {f : Fault}

theorem partOf_ne_faulty {name : String} : partOf shape name id ≠ faulty f := by
  rw [partOf.eq_def]
  split <;> simp [faulty, refuse]

theorem unfoldShape_list {entries : Entries} (has : HasMember shape entries) :
    unfoldShape unfold id shape = (do return .list (← unfold (← memberRef (.map entries) id))) := by
  obtain ⟨kind | kind, part⟩ := has <;> simp only [unfoldShape, kind, partOf, part, Outcome.ok_bind]

theorem unfoldShape_parts {parts : List (Key × Value)} (has : HasParts shape parts) :
    unfoldShape unfold id shape = faulty f ↔ fieldsFor unfold id parts = faulty f := by
  cases has with
  | @map key value kind partKey partValue =>
    simp only [unfoldShape, kind, partOf, partKey, partValue, Outcome.ok_bind, fieldsFor]
    cases fieldFor unfold id (.str "key") (.map key) with
    | error e => simp only [Outcome.error_bind, faulty, Except.error.injEq]
    | ok first =>
      cases fieldFor unfold id (.str "value") (.map value) with
      | error e => simp only [Outcome.ok_bind, Outcome.error_bind, faulty, Except.error.injEq]
      | ok second => exact iff_of_false (by rintro ⟨⟩) (by rintro ⟨⟩)
  | «structure» kind filled =>
    simp only [unfoldShape, kind, filled, entriesOf, Outcome.ok_bind]
    cases fieldsFor unfold id parts with
    | error e => simp only [Outcome.error_bind, faulty, Except.error.injEq]
    | ok fields => exact iff_of_false (by rintro ⟨⟩) (by rintro ⟨⟩)

theorem asks_or_misfit_of_parts {parts : List (Key × Value)} (has : HasParts shape parts) :
    fieldsFor unfold id parts = faulty f →
      (∃ t, ShapeAsks (given unfold) shape t ∧ unfold t = faulty f) ∨
        ShapeMisfit (given unfold) shape f := by
  intro failed
  obtain ⟨before, name, member, after, rfl, fit, failed⟩ := fieldsFor_eq_faulty.mp failed
  rcases fieldFor_eq_faulty.mp failed with ⟨t, targets, failed⟩ | misfit
  · exact .inl ⟨t, .part has fit targets, failed⟩
  · exact .inr (.part has fit misfit)

theorem asks_or_misfit_of_member {entries : Entries} (has : HasMember shape entries)
    (failed : unfoldShape unfold id shape = faulty f) :
    (∃ t, ShapeAsks (given unfold) shape t ∧ unfold t = faulty f) ∨
      ShapeMisfit (given unfold) shape f := by
  rw [unfoldShape_list has] at failed
  rcases bind_eq_faulty.mp failed with untargeted | ⟨t, targets, failed⟩
  · exact .inr (.member has (memberRef_eq_faulty.mp untargeted))
  exact .inl ⟨t, .member has (memberRef_eq_ok.mp targets), return_eq_error.mp failed⟩

theorem unfoldShape_eq_faulty : unfoldShape unfold id shape = faulty f ↔
    (∃ t, ShapeAsks (given unfold) shape t ∧ unfold t = faulty f) ∨
      ShapeMisfit (given unfold) shape f := by
  constructor
  · intro failed
    have whole := failed
    rw [unfoldShape.eq_def] at failed
    split at failed
    · rename_i kind
      obtain ⟨plain, rfl⟩ := mentions_eq_faulty.mp (return_eq_error.mp failed)
      exact .inr (.blob kind plain)
    · rename_i kind
      rcases bind_eq_faulty.mp failed with absent | ⟨_, part, -⟩
      · exact absurd absent partOf_ne_faulty
      obtain ⟨same, entries, rfl⟩ := partOf_eq_ok.mp part
      exact asks_or_misfit_of_member ⟨.inl kind, same⟩ whole
    · rename_i kind
      rcases bind_eq_faulty.mp failed with absent | ⟨_, part, -⟩
      · exact absurd absent partOf_ne_faulty
      obtain ⟨same, entries, rfl⟩ := partOf_eq_ok.mp part
      exact asks_or_misfit_of_member ⟨.inr kind, same⟩ whole
    · rename_i kind
      rcases bind_eq_faulty.mp failed with absent | ⟨_, partKey, failed⟩
      · exact absurd absent partOf_ne_faulty
      rcases bind_eq_faulty.mp failed with absent | ⟨_, partValue, -⟩
      · exact absurd absent partOf_ne_faulty
      obtain ⟨key, _, rfl⟩ := partOf_eq_ok.mp partKey
      obtain ⟨value, _, rfl⟩ := partOf_eq_ok.mp partValue
      have has := HasParts.map kind key value
      exact asks_or_misfit_of_parts has ((unfoldShape_parts has).mp whole)
    · rename_i kind
      rcases bind_eq_faulty.mp failed with absent | ⟨members, filled, -⟩
      · obtain ⟨unmapped, rfl⟩ := entriesOf_eq_faulty.mp absent
        exact .inr (.members kind unmapped)
      have has := HasParts.structure kind (entriesOf_eq_ok.mp filled)
      exact asks_or_misfit_of_parts has ((unfoldShape_parts has).mp whole)
    · exact nomatch failed
    · exact nomatch failed
  · -- the parts before the one at fault fit, so none of them fails first
    have parted {before after : List (Key × Value)} {name : Key} {member : Value}
        (has : HasParts shape (before ++ (name, member) :: after))
        (fit : ∀ p ∈ before, Fits (given unfold) p.1 p.2)
        (failed : (∃ t, Targets member t ∧ unfold t = faulty f) ∨
          MemberMisfit (given unfold) name member f) : unfoldShape unfold id shape = faulty f :=
      (unfoldShape_parts has).mpr <| fieldsFor_eq_faulty.mpr
        ⟨before, name, member, after, rfl, fit, fieldFor_eq_faulty.mpr failed⟩
    rintro (⟨t, asks, failed⟩ | misfit)
    · cases asks with
      | member has targets =>
        rw [unfoldShape_list has, memberRef_eq_ok.mpr targets, Outcome.ok_bind, failed]
        rfl
      | part has fit targets => exact parted has fit (.inl ⟨t, targets, failed⟩)
    · cases misfit with
      | blob kind plain =>
        rw [unfoldShape.eq_def, kind]
        rw [mentions_eq_faulty.mpr ⟨plain, rfl⟩]
        rfl
      | member has misfit =>
        have untargeted : memberRef (.map _) id = faulty f := memberRef_eq_faulty.mpr misfit
        rw [unfoldShape_list has, untargeted]
        rfl
      | members kind unmapped =>
        rw [unfoldShape.eq_def, kind]
        rw [entriesOf_eq_faulty.mpr ⟨unmapped, rfl⟩]
        rfl
      | part has fit misfit => exact parted has fit (.inr misfit)

end Shape

section Monotone

variable {unfolds more : Unfolding} {shape : Entries} {f : Fault}

theorem HasParts.among {parts : List (Key × Value)} (has : HasParts shape parts)
    {p : Key × Value} (part : p ∈ parts) : p.2 ∈ referringMembers shape := by
  cases has with
  | map kind key value =>
    simp only [List.mem_cons, List.not_mem_nil, or_false] at part
    rw [referringMembers, kind, key, value]
    rcases part with rfl | rfl <;> simp
  | «structure» kind filled =>
    rw [referringMembers, kind]
    exact memberValues_of_orEmpty filled ▸ List.mem_map_of_mem part

theorem HasMember.among {entries : Entries} (has : HasMember shape entries) :
    .map entries ∈ referringMembers shape := by
  obtain ⟨kind | kind, part⟩ := has <;> simp [referringMembers, kind, part]

theorem ShapeAsks.refers {t : Ref} (asks : ShapeAsks unfolds shape t) : ShapeRefers shape t := by
  cases asks with
  | member has targets => exact ⟨_, has.among, targets⟩
  | part has fit targets =>
    exact ⟨_, has.among (List.mem_append_right _ List.mem_cons_self), targets⟩

theorem HasParts.fit_mono {parts : List (Key × Value)} (has : HasParts shape parts)
    (each : ∀ t d, ShapeRefers shape t → unfolds t d → more t d) {p : Key × Value}
    (part : p ∈ parts) (fits : Fits unfolds p.1 p.2) : Fits more p.1 p.2 := by
  obtain ⟨t, field, describes, unfolded⟩ := fits
  exact ⟨t, field, describes, each t _ ⟨_, has.among part, describes.targets⟩ unfolded⟩

theorem ShapeAsks.mono (each : ∀ t d, ShapeRefers shape t → unfolds t d → more t d) {t : Ref}
    (asks : ShapeAsks unfolds shape t) : ShapeAsks more shape t := by
  cases asks with
  | member has targets => exact .member has targets
  | part has fit targets =>
    exact .part has (fun p before => has.fit_mono each (List.mem_append_left _ before)
      (fit p before)) targets

theorem MemberMisfit.mono {name : Key} {member : Value}
    (each : ∀ t d, Targets member t → unfolds t d → more t d)
    (misfit : MemberMisfit unfolds name member f) : MemberMisfit more name member f := by
  cases misfit with
  | unmapped other => exact .unmapped other
  | target misfit => exact .target misfit
  | traits mapped targets unfolded misfit =>
    exact .traits mapped targets (each _ _ targets unfolded) misfit
  | wording mapped targets unfolded filled untext =>
    exact .wording mapped targets (each _ _ targets unfolded) filled untext

theorem ShapeMisfit.mono (each : ∀ t d, ShapeRefers shape t → unfolds t d → more t d)
    (misfit : ShapeMisfit unfolds shape f) : ShapeMisfit more shape f := by
  cases misfit with
  | blob kind plain => exact .blob kind plain
  | member has misfit => exact .member has misfit
  | members kind unmapped => exact .members kind unmapped
  | part has fit misfit =>
    refine .part has (fun p before => has.fit_mono each (List.mem_append_left _ before)
      (fit p before)) (misfit.mono fun t d targets unfolded => ?_)
    exact each t d ⟨_, has.among (List.mem_append_right _ List.mem_cons_self), targets⟩ unfolded

end Monotone

section Misfit

variable {v : Value} {unfolds : Unfolding} {shape : Entries} {f : Fault}

/-- The faults of parts of the wrong kind: an operation that they do not have, a kind that an
operation does not take, and a kind that a field does not take. -/
inductive IsMisfit : Fault → Prop
  | absentOperation : IsMisfit .absentOperation
  | wrongKind : IsMisfit .wrongKind
  | wrongFieldKind : IsMisfit .wrongFieldKind

theorem TargetMisfit.isMisfit (misfit : TargetMisfit v f) : IsMisfit f := by
  cases misfit <;> constructor

theorem TraitsMisfit.isMisfit (misfit : TraitsMisfit v f) : IsMisfit f := by
  cases misfit <;> constructor

theorem MemberMisfit.isMisfit {name : Key} (misfit : MemberMisfit unfolds name v f) :
    IsMisfit f := by
  cases misfit with
  | unmapped => exact .absentOperation
  | target misfit => exact misfit.isMisfit
  | traits _ _ _ misfit => exact misfit.isMisfit
  | wording => exact .wrongFieldKind

theorem ShapeMisfit.isMisfit (misfit : ShapeMisfit unfolds shape f) : IsMisfit f := by
  cases misfit with
  | blob => exact .wrongKind
  | member _ misfit => exact misfit.isMisfit
  | members => exact .absentOperation
  | part _ _ misfit => exact misfit.isMisfit

end Misfit

end ServiceCli.Shape
