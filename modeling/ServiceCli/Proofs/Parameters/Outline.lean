import ServiceCli.Proofs.Parameters.Violation

/-!
The outline of parameters: where they are null, and which containers stand where a type has one.
Checking required paths sees no more than the outline, so parameters of one outline are found to
lack the same values in the same places.
-/

set_option autoImplicit false
set_option relaxedAutoImplicit false

namespace ServiceCli.Parameters

open ServiceCli.Command ServiceCli.Data ServiceCli.Path ServiceCli.Shape

mutual
/-- Two values have the same outline for a type: what the type does not enter is null in both or in
none, and what it enters is the same container in both, or one and the same other value. -/
def SameOutline : TypeTree → Value → Value → Prop
  | .structure members, v, w =>
    match v, w with
    | .map entries, .map others => SameOutlines members entries others
    | v, w => w = v
  | .list member, v, w =>
    match v, w with
    | .list items, .list others => List.Forall₂ (SameOutline member) items others
    | v, w => w = v
  | .map _ ⟨_, value, _, _, _⟩, v, w =>
    match v, w with
    | .map entries, .map others =>
      List.Forall₂ (fun e f => f.1 = e.1 ∧ SameOutline value e.2 f.2) entries others
    | v, w => w = v
  | _, v, w => w = .null ↔ v = .null
def SameOutlines : List Field → Entries → Entries → Prop
  | [], _, _ => True
  | ⟨name, type, _, _, _⟩ :: rest, entries, others =>
    SameOutline type (Value.field entries name) (Value.field others name)
      ∧ SameOutlines rest entries others
end

mutual
theorem SameOutline.refl : ∀ (t : TypeTree) (v : Value), SameOutline t v v
  | .structure members, v => by
    cases v with
    | map entries => exact SameOutlines.refl members entries
    | _ => rfl
  | .list member, v => by
    cases v with
    | list items => exact List.forall₂_same.mpr fun item _ => SameOutline.refl member item
    | _ => rfl
  | .map _ ⟨_, value, _, _, _⟩, v => by
    cases v with
    | map entries =>
      exact List.forall₂_same.mpr fun entry _ => ⟨rfl, SameOutline.refl value entry.2⟩
    | _ => rfl
  | .primitive _, _ => Iff.rfl
  | .blob _, _ => Iff.rfl
  | .document, _ => Iff.rfl
theorem SameOutlines.refl : ∀ (fields : List Field) (entries : Entries),
    SameOutlines fields entries entries
  | [], _ => trivial
  | ⟨_, type, _, _, _⟩ :: rest, entries => ⟨SameOutline.refl type _, SameOutlines.refl rest entries⟩
end

theorem SameOutline.null {t : TypeTree} {v w : Value} (same : SameOutline t v w) :
    w = .null ↔ v = .null := by
  cases t with
  | primitive => exact same
  | blob => exact same
  | document => exact same
  | «structure» members => cases v <;> cases w <;> simp_all [SameOutline]
  | list member => cases v <;> cases w <;> simp_all [SameOutline]
  | map _ value =>
    cases value
    cases v <;> cases w <;> simp_all [SameOutline]

private theorem missingAt_items {p : FieldPath} {items others : List Value}
    (same : List.Forall₂ (fun v w => ∀ l, missingAt l p w = missingAt l p v) items others)
    (l : Location) (start : Nat) :
    (others.zipIdx start).flatMap (fun item => missingAt (l ++ [.index item.2]) p item.1)
      = (items.zipIdx start).flatMap fun item => missingAt (l ++ [.index item.2]) p item.1 := by
  induction same generalizing start with
  | nil => rfl
  | @cons v w items others first _ ih =>
    have later := ih (start + 1)
    rw [List.zipIdx_cons, List.zipIdx_cons, List.flatMap_cons, List.flatMap_cons, later, first]

private theorem missingAt_values {p : FieldPath} {entries others : Entries}
    (same : List.Forall₂ (fun e f => f.1 = e.1 ∧ ∀ l, missingAt l p f.2 = missingAt l p e.2)
      entries others) (l : Location) :
    others.flatMap (fun f => missingAt (l ++ [.key (Literal.keyText f.1)]) p f.2)
      = entries.flatMap fun e => missingAt (l ++ [.key (Literal.keyText e.1)]) p e.2 := by
  induction same with
  | nil => rfl
  | cons first _ ih =>
    obtain ⟨key, value⟩ := first
    rw [List.flatMap_cons, List.flatMap_cons, ih, key, value]

mutual
/-- Along the path of a member that a type declares, values of one outline lack the same. -/
theorem SameOutline.missingAt_eq : ∀ (t : TypeTree) (v w : Value), SameOutline t v w →
    ∀ d ∈ declaredIn t, ∀ l, missingAt l d.path w = missingAt l d.path v
  | .structure members, v, w, same, d, declared, l => by
    cases v with
    | map entries =>
      cases w with
      | map others =>
        exact SameOutlines.missingAt_eq members entries others same d declared l
      | _ => exact absurd same (by simp [SameOutline])
    | _ =>
      have equal : w = _ := same
      rw [equal]
  | .list member, v, w, same, d, declared, l => by
    obtain ⟨inner, source, rfl⟩ := List.mem_map.mp declared
    cases v with
    | list items =>
      cases w with
      | list others =>
        have each : List.Forall₂ (SameOutline member) items others := same
        have items := each.imp fun v w outline =>
          SameOutline.missingAt_eq member v w outline inner source
        exact missingAt_items items l 0
      | _ => exact absurd same (by simp [SameOutline])
    | _ =>
      have equal : w = _ := same
      rw [equal]
  | .map _ ⟨_, value, _, _, _⟩, v, w, same, d, declared, l => by
    obtain ⟨inner, source, rfl⟩ := List.mem_map.mp declared
    cases v with
    | map entries =>
      cases w with
      | map others =>
        have each :
            List.Forall₂ (fun e f => f.1 = e.1 ∧ SameOutline value e.2 f.2) entries others := same
        have values := each.imp fun e f outline => And.intro outline.1
          (SameOutline.missingAt_eq value e.2 f.2 outline.2 inner source)
        exact missingAt_values values l
      | _ => exact absurd same (by simp [SameOutline])
    | _ =>
      have equal : w = _ := same
      rw [equal]
  | .primitive _, _, _, _, _, declared, _ => absurd declared (by simp [declaredIn])
  | .blob _, _, _, _, _, declared, _ => absurd declared (by simp [declaredIn])
  | .document, _, _, _, _, declared, _ => absurd declared (by simp [declaredIn])
theorem SameOutlines.missingAt_eq : ∀ (fields : List Field) (entries others : Entries),
    SameOutlines fields entries others →
    ∀ d ∈ declaredAmong fields, ∀ l,
      missingAt l d.path (.map others) = missingAt l d.path (.map entries)
  | [], _, _, _, _, declared, _ => absurd declared (by simp [declaredAmong])
  | ⟨name, type, required, _, _⟩ :: rest, entries, others, ⟨first, later⟩, d, declared, l => by
    rw [declaredAmong, List.cons_append, List.mem_cons, List.mem_append, List.mem_map] at declared
    rcases declared with rfl | ⟨inner, source, rfl⟩ | declared
    · have null : (Value.field others name == .null) = (Value.field entries name == .null) := by
        rw [Bool.eq_iff_iff, beq_iff_eq, beq_iff_eq]
        exact first.null
      show missingAt _ [] (Value.field others name) = missingAt _ [] (Value.field entries name)
      rw [missingAt, missingAt, null]
    · exact SameOutline.missingAt_eq type _ _ first inner source (l ++ [.member name])
    · exact SameOutlines.missingAt_eq rest entries others later d declared l
end

theorem validate_congr {v w : Value} {texts : List String}
    (same : ∀ t ∈ texts, missingAt [] (parsePath t) w = missingAt [] (parsePath t) v) :
    validate w texts = validate v texts := by
  have missed : missing w (texts.map parsePath) = missing v (texts.map parsePath) := by
    rw [missing, missing, List.flatMap_map, List.flatMap_map]
    exact List.flatMap_congr same
  rw [validate, validate, missed]

theorem SameOutlines.validate_eq {fields : List Field} (plain : NamesHave IsPlain fields)
    {entries others : Entries} (same : SameOutlines fields entries others)
    (token : Value.field others tokenName = .null ↔ Value.field entries tokenName = .null)
    (needsToken : Bool) :
    validate (.map others) (requiredTexts fields needsToken)
      = validate (.map entries) (requiredTexts fields needsToken) := by
  apply validate_congr
  intro t required
  rw [requiredTexts, List.mem_append] at required
  rcases required with member | last
  · have path : parsePath t ∈ requiredPaths fields := by
      rw [← parsed_requiredTexts plain, requiredTexts, if_neg (by simp), List.append_nil]
      exact List.mem_map_of_mem member
    obtain ⟨d, declared, equal⟩ := mem_requiredPaths path
    rw [← equal]
    exact SameOutlines.missingAt_eq fields entries others same d declared []
  · have name : t = tokenName := by
      cases needsToken <;> simp at last
      exact last
    have plain : IsPlain tokenName := isPlain_of_all (by decide) (by decide)
    have path : parsePath tokenName = [.member tokenName] := parsePath_member plain
    have null :
        (Value.field others tokenName == .null) = (Value.field entries tokenName == .null) := by
      rw [Bool.eq_iff_iff, beq_iff_eq, beq_iff_eq]
      exact token
    rw [name, path]
    simp only [missingAt, null]

end ServiceCli.Parameters
