import Mathlib.Data.List.Forall2
import ServiceCli.Proofs.Outcome
import ServiceCli.Shape.Resolve

/-!
One layer of a type tree: what a shape says by itself, with the types of its targets left open. Main
statement: a shape unfolds to a type exactly when it describes a layer whose targets unfold to the
types that the layer leaves open.
-/

set_option autoImplicit false
set_option relaxedAutoImplicit false

namespace ServiceCli.Shape

open ServiceCli.Data

/-- A member refers to a shape when its target is an id that denotes it. -/
def Targets (member : Value) (t : Ref) : Prop :=
  ∃ id, targetOf member = .str id ∧ Ref.parse? id = some t

/-- A member describes a field up to its type: its name is a text, its target denotes a shape, and
the marks and the documentation come from its own traits. -/
structure Describes (name : Key) (member : Value) (t : Ref) (f : Field) : Prop where
  named : nameOf name = .ok f.name
  targets : Targets member t
  traits : ∃ entries traits : Entries, member = .map entries ∧ traitsOf entries = .map traits ∧
    f.required = (traits.get? requiredTrait).isSome ∧
    textOf ((Value.field traits documentationTrait).orElse (.str "")) = .ok f.documentation ∧
    f.isPayload = (traits.get? payloadTrait).isSome

/-- A shape describes a type, given the types of the references it makes. -/
inductive Layer (shape : Entries) : List (Ref × TypeTree) → TypeTree → Prop
  | blob {streaming : Bool} : Value.field shape "type" = .str "blob" →
      mentions streamingTrait (traitsOf shape) = .ok streaming → Layer shape [] (.blob streaming)
  | list {kind : String} {entries : Entries} {t : Ref} {type : TypeTree} :
      kind = "list" ∨ kind = "set" → Value.field shape "type" = .str kind →
      Value.field shape "member" = .map entries → Targets (.map entries) t →
      Layer shape [(t, type)] (.list type)
  | map {tk tv : Ref} {key value : Field} : Value.field shape "type" = .str "map" →
      Describes (.str "key") (Value.field shape "key") tk key →
      Describes (.str "value") (Value.field shape "value") tv value →
      Layer shape [(tk, key.type), (tv, value.type)] (.map key value)
  | structure {members : Entries} {parts : List (Ref × Field)} :
      Value.field shape "type" = .str "structure" →
      orEmpty (Value.field shape "members") = .map members →
      List.Forall₂ (fun m p => Describes m.1 m.2 p.1 p.2) members parts →
      Layer shape (parts.map fun p => (p.1, p.2.type)) (.structure (parts.map Prod.snd))
  | document : Value.field shape "type" = .str "document" → Layer shape [] .document

section Access

variable {unfold : Ref → Outcome TypeTree} {id owner : String} {name : Key} {member v : Value}

theorem parse?_ne_empty {t : Ref} (parsed : Ref.parse? id = some t) : id ≠ "" := by
  rintro rfl
  simp [Ref.parse?, Ref.splitHash] at parsed

theorem refOf_eq_ok {t : Ref} : refOf v = .ok t ↔ ∃ id, v = .str id ∧ Ref.parse? id = some t := by
  unfold refOf
  split
  · rename_i s
    cases parsed : Ref.parse? s <;> simp [parsed, refuse]
  · simp [faulty]
  · rename_i text _
    simp only [faulty, reduceCtorEq, false_iff, not_exists, not_and]
    rintro s rfl
    exact absurd rfl (text s)

theorem memberRef_eq_ok {t : Ref} : memberRef member owner = .ok t ↔ Targets member t := by
  unfold memberRef Targets
  dsimp only
  split
  · exact refOf_eq_ok
  · rename_i empty
    simp only [refuse, reduceCtorEq, false_iff, not_exists, not_and]
    intro s target parsed
    simp [target, Value.isTruthy, Scalar.isTruthy, parse?_ne_empty parsed] at empty

theorem entriesOf_eq_ok {entries : Entries} : entriesOf v = .ok entries ↔ v = .map entries := by
  unfold entriesOf
  cases v <;> simp [faulty]

theorem fieldOf_eq_ok {n : String} {w : Value} :
    fieldOf v n = .ok w ↔ ∃ entries, v = .map entries ∧ Value.field entries n = w := by
  simp only [fieldOf, Outcome.bind_eq_ok, Outcome.pure_eq_ok, entriesOf_eq_ok]

theorem documentationOf_eq_ok {w : Value} :
    documentationOf v = .ok w ↔ ∃ entries, v = .map entries ∧
      (Value.field entries documentationTrait).orElse (.str "") = w := by
  simp only [documentationOf, Outcome.bind_eq_ok, Outcome.pure_eq_ok, fieldOf_eq_ok]
  constructor
  · rintro ⟨_, ⟨entries, rfl, rfl⟩, rfl⟩
    exact ⟨entries, rfl, rfl⟩
  · rintro ⟨entries, rfl, rfl⟩
    exact ⟨_, ⟨entries, rfl, rfl⟩, rfl⟩

theorem fieldFor_eq_ok {f : Field} : fieldFor unfold owner name member = .ok f ↔
    ∃ t, Describes name member t f ∧ unfold t = .ok f.type := by
  simp only [fieldFor, Outcome.bind_eq_ok, Outcome.pure_eq_ok, fieldOf_eq_ok, memberRef_eq_ok,
    documentationOf_eq_ok]
  constructor
  · rintro ⟨_, ⟨entries, rfl, rfl⟩, t, targets, type, unfolds, required, marked, _,
      ⟨traits, filled, rfl⟩, payload, sent, n, named, documentation, told, rfl⟩
    have own : orEmpty (Value.field entries "traits") = traitsOf entries := rfl
    rw [filled] at marked sent
    rw [own] at filled
    have marked := (Except.ok.inj marked).symm
    have sent := (Except.ok.inj sent).symm
    exact ⟨t, ⟨named, targets, entries, traits, rfl, filled, marked, told, sent⟩, unfolds⟩
  · rintro ⟨t, ⟨named, targets, entries, traits, rfl, filled, marked, told, sent⟩, unfolds⟩
    have own : orEmpty (Value.field entries "traits") = .map traits := filled
    refine ⟨_, ⟨entries, rfl, rfl⟩, t, targets, f.type, unfolds, f.required, ?_, _,
      ⟨traits, own, rfl⟩, f.isPayload, ?_, f.name, named, f.documentation, told, ?_⟩
    · rw [own, mentions, marked]
    · rw [own, mentions, sent]
    · cases f
      rfl

theorem fieldsFor_eq_ok {members : Entries} {fields : List Field} :
    fieldsFor unfold owner members = .ok fields ↔ ∃ parts : List (Ref × Field),
      List.Forall₂ (fun m p => Describes m.1 m.2 p.1 p.2) members parts ∧
      parts.map Prod.snd = fields ∧ ∀ p ∈ parts, unfold p.1 = .ok p.2.type := by
  induction members generalizing fields with
  | nil => simp [fieldsFor, eq_comm]
  | cons m members ih =>
    obtain ⟨name, member⟩ := m
    simp only [fieldsFor, Outcome.bind_eq_ok, Outcome.pure_eq_ok, fieldFor_eq_ok, ih,
      List.forall₂_cons_left_iff]
    constructor
    · rintro ⟨f, ⟨t, describes, unfolds⟩, _, ⟨parts, all, rfl, others⟩, rfl⟩
      refine ⟨(t, f) :: parts, ⟨(t, f), parts, describes, all, rfl⟩, rfl, ?_⟩
      simpa using ⟨unfolds, fun r g member => others (r, g) member⟩
    · rintro ⟨_, ⟨p, parts, describes, all, rfl⟩, rfl, each⟩
      refine ⟨p.2, ⟨p.1, describes, each p List.mem_cons_self⟩, _, ⟨parts, all, rfl, ?_⟩, rfl⟩
      exact fun q member => each q (List.mem_cons_of_mem p member)

end Access

section Success

variable {unfold : Ref → Outcome TypeTree} {id : String} {shape : Entries} {d : TypeTree}

theorem partOf_eq_ok {name : String} {v : Value} : partOf shape name id = .ok v ↔
    Value.field shape name = v ∧ ∃ entries, v = .map entries := by
  unfold partOf
  split
  · rename_i entries filled
    simp only [Except.ok.injEq, filled]
    constructor
    · rintro rfl
      exact ⟨rfl, entries, rfl⟩
    · rintro ⟨equal, -⟩
      exact equal
  · rename_i other
    simp only [refuse, reduceCtorEq, false_iff, not_and, not_exists]
    rintro rfl entries equal
    exact other entries equal

theorem Describes.isMap {name : Key} {member : Value} {t : Ref} {f : Field}
    (describes : Describes name member t f) : ∃ entries, member = .map entries := by
  obtain ⟨entries, _, equal, _⟩ := describes.traits
  exact ⟨entries, equal⟩

private theorem unfoldShape_sound (unfolded : unfoldShape unfold id shape = .ok d) :
    ∃ parts, Layer shape parts d ∧ ∀ p ∈ parts, unfold p.1 = .ok p.2 := by
  unfold unfoldShape at unfolded
  split at unfolded
  · rename_i kind
    obtain ⟨streaming, marked, equal⟩ := Outcome.bind_eq_ok.mp unfolded
    obtain rfl := Outcome.pure_eq_ok.mp equal
    exact ⟨[], .blob kind marked, by simp⟩
  · rename_i kind
    simp only [Outcome.bind_eq_ok, Outcome.pure_eq_ok, partOf_eq_ok, memberRef_eq_ok] at unfolded
    obtain ⟨_, ⟨part, entries, rfl⟩, t, targets, type, unfolds, rfl⟩ := unfolded
    exact ⟨[(t, type)], .list (.inl rfl) kind part targets, by simpa using unfolds⟩
  · rename_i kind
    simp only [Outcome.bind_eq_ok, Outcome.pure_eq_ok, partOf_eq_ok, memberRef_eq_ok] at unfolded
    obtain ⟨_, ⟨part, entries, rfl⟩, t, targets, type, unfolds, rfl⟩ := unfolded
    exact ⟨[(t, type)], .list (.inr rfl) kind part targets, by simpa using unfolds⟩
  · rename_i kind
    simp only [Outcome.bind_eq_ok, Outcome.pure_eq_ok, partOf_eq_ok, fieldFor_eq_ok] at unfolded
    obtain ⟨_, ⟨rfl, -⟩, _, ⟨rfl, -⟩, key, ⟨tk, describesKey, unfoldsKey⟩, value,
      ⟨tv, describesValue, unfoldsValue⟩, rfl⟩ := unfolded
    exact ⟨_, .map kind describesKey describesValue, by simpa using ⟨unfoldsKey, unfoldsValue⟩⟩
  · rename_i kind
    simp only [Outcome.bind_eq_ok, Outcome.pure_eq_ok, entriesOf_eq_ok,
      fieldsFor_eq_ok] at unfolded
    obtain ⟨members, filled, _, ⟨parts, all, rfl, each⟩, rfl⟩ := unfolded
    refine ⟨_, .structure kind filled all, ?_⟩
    rintro _ member
    obtain ⟨p, source, rfl⟩ := List.mem_map.mp member
    exact each p source
  · rename_i kind
    obtain rfl := Except.ok.inj unfolded
    exact ⟨[], .document kind, by simp⟩
  · simp [refuse] at unfolded

private theorem unfoldShape_complete {parts : List (Ref × TypeTree)} (layer : Layer shape parts d)
    (each : ∀ p ∈ parts, unfold p.1 = .ok p.2) : unfoldShape unfold id shape = .ok d := by
  cases layer with
  | blob kind marked => simp [unfoldShape, kind, marked]
  | @list _ entries t _ either kind part targets =>
    have target : memberRef (.map entries) id = .ok t := memberRef_eq_ok.mpr targets
    have unfolds := each _ List.mem_cons_self
    rcases either with rfl | rfl <;> simp [unfoldShape, kind, partOf, part, target, unfolds]
  | @map _ _ key value kind describesKey describesValue =>
    have partKey : partOf shape "key" id = .ok (Value.field shape "key") :=
      partOf_eq_ok.mpr ⟨rfl, describesKey.isMap⟩
    have partValue : partOf shape "value" id = .ok (Value.field shape "value") :=
      partOf_eq_ok.mpr ⟨rfl, describesValue.isMap⟩
    have fieldKey : fieldFor unfold id (.str "key") (Value.field shape "key") = .ok key :=
      fieldFor_eq_ok.mpr ⟨_, describesKey, each _ List.mem_cons_self⟩
    have fieldValue : fieldFor unfold id (.str "value") (Value.field shape "value") = .ok value :=
      fieldFor_eq_ok.mpr
        ⟨_, describesValue, each _ (List.mem_cons_of_mem _ List.mem_cons_self)⟩
    simp [unfoldShape, kind, partKey, partValue, fieldKey, fieldValue]
  | @«structure» members parts kind filled all =>
    have fields : fieldsFor unfold id members = .ok (parts.map Prod.snd) :=
      fieldsFor_eq_ok.mpr
        ⟨_, all, rfl, fun p member => each _ (List.mem_map.mpr ⟨p, member, rfl⟩)⟩
    simp [unfoldShape, kind, filled, entriesOf, fields]
  | document kind => simp [unfoldShape, kind]

theorem unfoldShape_eq_ok : unfoldShape unfold id shape = .ok d ↔
    ∃ parts, Layer shape parts d ∧ ∀ p ∈ parts, unfold p.1 = .ok p.2 :=
  ⟨unfoldShape_sound, fun ⟨_, layer, each⟩ => unfoldShape_complete layer each⟩

end Success

end ServiceCli.Shape
