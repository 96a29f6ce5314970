import ServiceCli.Proofs.Shape.Unfolding

set_option autoImplicit false
set_option relaxedAutoImplicit false

namespace ServiceCli.Data.Entries

def revise (change : Key → Value → Value) (entries : Entries) : Entries :=
  entries.map fun entry => (entry.1, change entry.1 entry.2)

theorem get?_revise (change : Key → Value → Value) (entries : Entries) (name : String) :
    get? (revise change entries) name = (get? entries name).map (change (.str name)) := by
  induction entries with
  | nil => rfl
  | cons entry entries ih =>
    obtain ⟨k, v⟩ := entry
    rw [revise, List.map_cons]
    by_cases same : k = .str name
    · subst same
      rw [get?_cons_str, get?_cons_str, if_pos rfl, if_pos rfl, Option.map_some]
    · rw [get?_cons_of_ne same, get?_cons_of_ne same]
      exact ih

theorem field_revise {change : Key → Value → Value} {name : String}
    (missing : change (.str name) .null = .null) (entries : Entries) :
    Value.field (revise change entries) name = change (.str name) (Value.field entries name) := by
  rw [Value.field, Value.field, get?_revise]
  cases entries.get? name with
  | none => exact missing.symm
  | some v => rfl

end ServiceCli.Data.Entries

namespace ServiceCli.Shape

open ServiceCli.Data

/-- A mapping with the value under each key changed; any other value is left as it is. -/
def revised (change : Key → Value → Value) : Value → Value
  | .map entries => .map (Entries.revise change entries)
  | v => v

mutual
/-- A type without the documentation of its fields. -/
def TypeTree.undocumented : TypeTree → TypeTree
  | .list member => .list member.undocumented
  | .map ⟨keyName, keyType, keyRequired, _, keyPayload⟩ ⟨name, type, required, _, isPayload⟩ =>
    .map ⟨keyName, keyType.undocumented, keyRequired, "", keyPayload⟩
      ⟨name, type.undocumented, required, "", isPayload⟩
  | .structure members => .structure (undocumentedFields members)
  | t => t
def undocumentedFields : List Field → List Field
  | [] => []
  | ⟨name, type, required, _, isPayload⟩ :: rest =>
    ⟨name, type.undocumented, required, "", isPayload⟩ :: undocumentedFields rest
end

def Field.undocumented (f : Field) : Field :=
  { f with type := f.type.undocumented, documentation := "" }

theorem undocumentedFields_eq (fields : List Field) :
    undocumentedFields fields = fields.map Field.undocumented := by
  induction fields with
  | nil => rfl
  | cons f fields ih =>
    cases f
    rw [undocumentedFields, ih]
    rfl

theorem undocumented_map (key value : Field) :
    (TypeTree.map key value).undocumented = .map key.undocumented value.undocumented := by
  cases key
  cases value
  rfl

/-- The traits of a shape or a member, without the documentation. -/
def untoldTraits (entries : Entries) : Value :=
  match traitsOf entries with
  | .map traits => .map (Entries.erase traits documentationTrait)
  | v => v

/-- A shape or a member without its own documentation. -/
def untold (entries : Entries) : Entries :=
  (.str "traits", untoldTraits entries) :: entries.erase "traits"

def untoldMember : Value → Value
  | .map entries => .map (untold entries)
  | v => v

/-- A mapping of members without their documentation. -/
def untoldMembers : Value → Value := revised fun _ => untoldMember

/-- A part of a shape, without the documentation of the members in it. -/
def untoldPart (key : Key) (part : Value) : Value :=
  if key = .str "members" then untoldMembers part
  else if key = .str "member" ∨ key = .str "key" ∨ key = .str "value" then untoldMember part
  else part

/-- A shape without documentation, its own and that of its members. -/
def undocumentedShape (shape : Entries) : Entries := untold (shape.revise untoldPart)

def undocumentedValue : Value → Value
  | .map shape => .map (undocumentedShape shape)
  | v => v

/-- The shapes of a model without documentation. -/
def Graph.undocumented (graph : Graph) : Graph := graph.revise fun _ => undocumentedValue

section Traits

variable {entries shape : Entries} {name : String}

theorem field_untold_of_ne (differ : name ≠ "traits") :
    Value.field (untold entries) name = Value.field entries name := by
  rw [Value.field, untold, Entries.get?_cons_str, if_neg differ.symm,
    Entries.get?_erase_of_ne differ, Value.field]

theorem orEmpty_cases (v : Value) : orEmpty v = v ∨ orEmpty v = .map [] := by
  rw [orEmpty, Value.orElse]
  split
  · exact .inl rfl
  · exact .inr rfl

theorem orEmpty_orEmpty (v : Value) : orEmpty (orEmpty v) = orEmpty v := by
  rcases orEmpty_cases v with kept | none
  · rw [kept, kept]
  · rw [none]
    rfl

theorem traitsOf_untold (entries : Entries) : traitsOf (untold entries) = untoldTraits entries := by
  have own : Value.field (untold entries) "traits" = untoldTraits entries := by
    rw [Value.field, untold, Entries.get?_cons_str, if_pos rfl, Option.getD_some]
  have filled := orEmpty_orEmpty (Value.field entries "traits")
  rw [traitsOf, own, untoldTraits]
  split
  · rename_i traits told
    rw [orEmpty, Value.orElse]
    split
    · rfl
    · rename_i empty
      have none : Entries.erase traits documentationTrait = [] := by
        simpa [Value.isTruthy] using empty
      rw [none]
  · exact filled

/-- Whether a trait other than the documentation is there does not depend on it. -/
theorem mentions_untoldTraits (differ : name ≠ documentationTrait) (entries : Entries) :
    mentions name (untoldTraits entries) = mentions name (traitsOf entries) := by
  rw [untoldTraits]
  split
  · rename_i traits told
    rw [told, mentions, mentions, Entries.get?_erase_of_ne differ]
  · rfl

theorem field_undocumentedShape_of_other (traits : name ≠ "traits") (members : name ≠ "members")
    (parts : name ≠ "member" ∧ name ≠ "key" ∧ name ≠ "value") :
    Value.field (undocumentedShape shape) name = Value.field shape name := by
  have unchanged : ∀ v, untoldPart (.str name) v = v := by
    intro v
    simp [untoldPart, members, parts]
  rw [undocumentedShape, field_untold_of_ne traits, Entries.field_revise (unchanged .null),
    unchanged]

theorem field_undocumentedShape_type :
    Value.field (undocumentedShape shape) "type" = Value.field shape "type" :=
  field_undocumentedShape_of_other (by decide) (by decide) (by decide)

theorem field_undocumentedShape_part
    (part : name = "member" ∨ name = "key" ∨ name = "value") :
    Value.field (undocumentedShape shape) name = untoldMember (Value.field shape name) := by
  have changed : ∀ v, untoldPart (.str name) v = untoldMember v := by
    intro v
    rcases part with rfl | rfl | rfl <;> rfl
  have other : name ≠ "traits" := by rcases part with rfl | rfl | rfl <;> decide
  rw [undocumentedShape, field_untold_of_ne other, Entries.field_revise (changed .null), changed]

theorem field_undocumentedShape_members :
    Value.field (undocumentedShape shape) "members"
      = untoldMembers (Value.field shape "members") := by
  rw [undocumentedShape, field_untold_of_ne (by decide), Entries.field_revise rfl]
  rfl

theorem traitsOf_undocumentedShape :
    traitsOf (undocumentedShape shape) = untoldTraits shape := by
  have own : traitsOf (shape.revise untoldPart) = traitsOf shape := by
    rw [traitsOf, Entries.field_revise rfl]
    rfl
  rw [undocumentedShape, traitsOf_untold, untoldTraits, own]
  rfl

theorem targetOf_untoldMember (member : Value) :
    targetOf (untoldMember member) = targetOf member := by
  cases member with
  | map entries => exact field_untold_of_ne (by decide)
  | _ => rfl

end Traits

section Layer

variable {shape : Entries}

theorem Targets.undocumented {member : Value} {t : Ref} (targets : Targets member t) :
    Targets (untoldMember member) t := by
  obtain ⟨id, target, parsed⟩ := targets
  exact ⟨id, (targetOf_untoldMember member).trans target, parsed⟩

theorem Describes.undocumented {name : Key} {member : Value} {t : Ref} {f : Field}
    (describes : Describes name member t f) :
    Describes name (untoldMember member) t f.undocumented := by
  obtain ⟨named, targets, entries, traits, rfl, filled, marked, -, sent⟩ := describes
  have left : traitsOf (untold entries) = .map (traits.erase documentationTrait) := by
    rw [traitsOf_untold, untoldTraits, filled]
  refine ⟨named, targets.undocumented, untold entries, _, rfl, left, ?_, ?_, ?_⟩
  · rw [Entries.get?_erase_of_ne (by decide)]
    exact marked
  · rw [Value.field, Entries.get?_erase_same]
    rfl
  · rw [Entries.get?_erase_of_ne (by decide)]
    exact sent

theorem orEmpty_revised (change : Key → Value → Value) (v : Value) :
    orEmpty (revised change v) = revised change (orEmpty v) := by
  have other (unchanged : revised change v = v) :
      orEmpty (revised change v) = revised change (orEmpty v) := by
    rcases orEmpty_cases v with kept | none
    · rw [unchanged, kept, unchanged]
    · rw [unchanged, none]
      rfl
  cases v with
  | map entries => cases entries <;> rfl
  | _ => exact other rfl

theorem Layer.undocumented {parts : List (Ref × TypeTree)} {d : TypeTree}
    (layer : Layer shape parts d) :
    Layer (undocumentedShape shape) (parts.map fun p => (p.1, p.2.undocumented))
      d.undocumented := by
  have kindOf {kind : String} (kind_ : Value.field shape "type" = .str kind) :
      Value.field (undocumentedShape shape) "type" = .str kind :=
    field_undocumentedShape_type.trans kind_
  cases layer with
  | blob kind marked =>
    refine .blob (kindOf kind) ?_
    rw [traitsOf_undocumentedShape, mentions_untoldTraits (by decide)]
    exact marked
  | list either kind part targets =>
    refine .list either (kindOf kind) ?_ targets.undocumented
    rw [field_undocumentedShape_part (.inl rfl), part]
    rfl
  | @map _ _ key value kind describesKey describesValue =>
    have own := describesKey.undocumented
    have also := describesValue.undocumented
    rw [← field_undocumentedShape_part (.inr (.inl rfl))] at own
    rw [← field_undocumentedShape_part (.inr (.inr rfl))] at also
    rw [undocumented_map]
    exact .map (kindOf kind) own also
  | @«structure» members parts kind filled all =>
    have others : List.Forall₂ (fun m p => Describes m.1 m.2 p.1 p.2)
        (members.revise fun _ => untoldMember) (parts.map fun p => (p.1, p.2.undocumented)) := by
      rw [Entries.revise, List.forall₂_map_left_iff, List.forall₂_map_right_iff]
      exact all.imp fun _ _ describes => describes.undocumented
    have inner : orEmpty (Value.field (undocumentedShape shape) "members")
        = .map (members.revise fun _ => untoldMember) := by
      rw [field_undocumentedShape_members, untoldMembers, orEmpty_revised, filled]
      rfl
    have layer := Layer.structure (kindOf kind) inner others
    have types : (TypeTree.structure (parts.map Prod.snd)).undocumented = .structure
        ((parts.map fun p => (p.1, p.2.undocumented)).map Prod.snd) := by
      rw [TypeTree.undocumented, undocumentedFields_eq]
      simp
    rw [types]
    simpa [Function.comp_def, Field.undocumented] using layer
  | document kind => exact .document (kindOf kind)

end Layer

section Resolve

variable {graph : Graph} {r : Ref} {d : TypeTree}

theorem Denotes.undocumented {shape : Entries} (denotes : Denotes graph r shape) :
    Denotes graph.undocumented r (undocumentedShape shape) := by
  refine ⟨denotes.1, ?_⟩
  rw [Graph.undocumented, Entries.get?_revise, denotes.2]
  rfl

theorem preludeType_undocumented (name : String) :
    (preludeType name).undocumented = preludeType name := by
  unfold preludeType
  dsimp only
  split
  · rfl
  · split
    · rfl
    · rfl

/-- A reference unfolds without documentation to what it unfolds to, without documentation. -/
theorem resolveWith_undocumented {fuel : Nat} {chain : List Ref}
    (resolved : resolveWith graph fuel chain r = .ok d) :
    resolveWith graph.undocumented fuel chain r = .ok d.undocumented := by
  induction fuel generalizing chain r d with
  | zero => exact nomatch resolved
  | succ fuel ih =>
    rcases reference_cases graph chain r with scope | ⟨shape, denotes, met⟩ |
      ⟨shape, denotes, fresh⟩ | ⟨scope, absent⟩
    · rw [resolveWith_prelude scope] at resolved ⊢
      rw [← Except.ok.inj resolved, preludeType_undocumented]
    · rw [resolveWith_met denotes met] at resolved
      exact nomatch resolved
    · rw [resolveWith_shape denotes fresh] at resolved
      rw [resolveWith_shape denotes.undocumented fresh]
      obtain ⟨parts, layer, each⟩ := unfoldShape_eq_ok.mp resolved
      refine unfoldShape_eq_ok.mpr ⟨_, layer.undocumented, ?_⟩
      intro p member
      obtain ⟨q, among, rfl⟩ := List.mem_map.mp member
      exact ih (each q among)
    · rw [resolveWith_absent scope absent] at resolved
      exact nomatch resolved

theorem resolve_undocumented (resolved : resolve graph r = .ok d) :
    resolve graph.undocumented r = .ok d.undocumented := by
  have length : graph.undocumented.length = graph.length := List.length_map _
  rw [resolve, resolveFrom, length]
  exact resolveWith_undocumented resolved

private theorem resolved_structure {members : List Field} : (do
      match ← resolve graph r with
      | .structure members => return members
      | other => refuse (.notStructure r.id (.str other.kind))) = Except.ok members
        ↔ resolve graph r = .ok (.structure members) := by
  cases resolve graph r with
  | error e => simp [bind, Except.bind]
  | ok d => cases d <;> simp [bind, Except.bind, pure, Except.pure, refuse]

theorem resolveStructure_eq_ok {members : List Field} : resolveStructure graph r = .ok members ↔
    (∀ shape, graph.get? r.id = some (.map shape) →
      Value.field shape "type" = .str "structure") ∧
    resolve graph r = .ok (.structure members) := by
  rw [resolveStructure]
  split
  · rename_i shape found
    have shapes : (∀ other, graph.get? r.id = some (.map other) →
        Value.field other "type" = .str "structure")
          ↔ Value.field shape "type" = .str "structure" := by
      simp [found]
    rw [shapes]
    dsimp only
    split
    · rename_i other
      have differs : Value.field shape "type" ≠ .str "structure" := by simpa using other
      simp [refuse, bind, Except.bind, differs]
    · rename_i same
      have kind : Value.field shape "type" = .str "structure" := by simpa using same
      rw [and_iff_right kind]
      exact resolved_structure
  · rename_i absent
    refine ⟨fun told => ⟨?_, resolved_structure.mp told⟩, fun told => resolved_structure.mpr told.2⟩
    exact fun shape found => absurd found (absent shape)

theorem resolveStructure_undocumented {members : List Field}
    (resolved : resolveStructure graph r = .ok members) :
    resolveStructure graph.undocumented r = .ok (undocumentedFields members) := by
  obtain ⟨kind, resolved⟩ := resolveStructure_eq_ok.mp resolved
  refine resolveStructure_eq_ok.mpr ⟨fun shape found => ?_, resolve_undocumented resolved⟩
  rw [Graph.undocumented, Entries.get?_revise, Option.map_eq_some_iff] at found
  obtain ⟨v, there, same⟩ := found
  cases v with
  | map entries =>
    cases same
    rw [field_undocumentedShape_type]
    exact kind entries there
  | _ => exact nomatch same

end Resolve

end ServiceCli.Shape
