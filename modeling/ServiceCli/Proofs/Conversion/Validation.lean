import ServiceCli.Proofs.Conversion.Script
import ServiceCli.Proofs.Parameters.Outline

/-!
Converting parameters and checking them commute. A conversion turns no null into a value and no
value into null, and leaves every container that a required path walks through, so the outline of
the parameters stays. Main statement: the required paths of an input find the same to be missing in
parameters before and after the script of the input has run on them.
-/

set_option autoImplicit false
set_option relaxedAutoImplicit false

namespace ServiceCli.Conversion

open ServiceCli.Command ServiceCli.Data ServiceCli.Files ServiceCli.Parameters ServiceCli.Path
open ServiceCli.Script ServiceCli.Shape

section Members

variable {files : System} {name : String} {entries : Entries}

theorem convertValue_null (files : System) (place : FieldPath) (type : TypeTree) :
    (convertValue files place type .null).1 = .null := by
  cases type with
  | map _ value => cases value; rfl
  | _ => rfl

theorem field_convertUnder {convert : Value → Value × Option Failure}
    (null : (convert .null).1 = .null) :
    Value.field (convertUnder name convert entries).1 name
      = (convert (Value.field entries name)).1 := by
  cases found : entries.get? name with
  | none =>
    rw [convertUnder_of_absent found, Entries.field_eq_null found, null]
  | some v =>
    have value : Value.field entries name = v := Entries.field_eq_of_get? found
    obtain ⟨before, after, rfl, absent⟩ := Entries.split_of_get? found
    rw [value, convertUnder_append_cons absent, Value.field, Entries.get?_append_cons absent]
    rfl

theorem field_convertUnder_of_ne {other : String} (differ : other ≠ name)
    (convert : Value → Value × Option Failure) :
    Value.field (convertUnder name convert entries).1 other = Value.field entries other := by
  rw [Value.field, get?_convertUnder_of_ne differ, Value.field]

theorem field_convertFields_of_notMem {fields : List Field}
    (foreign : name ∉ fields.map Field.name) (place : FieldPath) (entries : Entries) :
    Value.field (convertFields files place fields entries).1 name = Value.field entries name := by
  have none : ∀ f ∈ fields, f.name = name → f.type.containsSpecial = false := by
    intro f member same
    exact absurd (same ▸ List.mem_map_of_mem member) foreign
  rw [Value.field, get?_convertFields_of_plain files none, Value.field]

theorem field_convertFields {fields : List Field} (differ : (fields.map Field.name).Nodup)
    (place : FieldPath) (entries : Entries) {f : Field} (member : f ∈ fields) :
    Value.field (convertFields files place fields entries).1 f.name = Value.field entries f.name
      ∨ Value.field (convertFields files place fields entries).1 f.name
        = (convertValue files (place.member f.name) f.type (Value.field entries f.name)).1 := by
  induction fields generalizing entries with
  | nil => exact absurd member (by simp)
  | cons g fields ih =>
    obtain ⟨fresh, others⟩ := List.nodup_cons.mp differ
    have null := convertValue_null files (place.member g.name) g.type
    have own : Value.field (convertUnder g.name (convertValue files (place.member g.name) g.type)
        entries).1 g.name = _ := field_convertUnder null
    have apart : ∀ other ≠ g.name, Value.field (convertUnder g.name
        (convertValue files (place.member g.name) g.type) entries).1 other
          = Value.field entries other :=
      fun other different => field_convertUnder_of_ne different _
    rcases step : convertUnder g.name (convertValue files (place.member g.name) g.type) entries
      with ⟨changed, failure⟩
    rw [step] at own apart
    rcases List.mem_cons.mp member with rfl | later
    · -- the first field: what follows has other names
      refine .inr ?_
      cases failure with
      | some e => rw [convertFields_cons_error step, own]
      | none => rw [convertFields_cons_ok step, field_convertFields_of_notMem fresh, own]
    · have different : f.name ≠ g.name := fun same => fresh (same ▸ List.mem_map_of_mem later)
      have unchanged := apart f.name different
      cases failure with
      | some e =>
        rw [convertFields_cons_error step]
        exact .inl unchanged
      | none =>
        have further := ih others changed later
        rw [unchanged] at further
        rw [convertFields_cons_ok step]
        exact further

end Members

theorem forall₂_convertEach {α : Type} {R : α → α → Prop} {convert : α → α × Option Failure}
    (stay : ∀ a, R a a) (step : ∀ a, R a (convert a).1) (items : List α) :
    List.Forall₂ R items (convertEach convert items).1 := by
  induction items with
  | nil => exact .nil
  | cons a items ih =>
    have first := step a
    rcases converted : convert a with ⟨b, failure⟩
    rw [converted] at first
    cases failure with
    | some e =>
      rw [convertEach_cons_error converted]
      exact .cons first (List.forall₂_same.mpr fun a _ => stay a)
    | none =>
      rw [convertEach_cons_ok converted]
      exact .cons first ih

theorem blobContent_ne_null {files : System} {streaming : Bool} {place : FieldPath} {v w : Value}
    (content : blobContent files streaming place v = .ok w) : w ≠ .null := by
  rintro rfl
  simp only [blobContent] at content
  split at content
  · cases streaming <;> cases content
  · cases content
  · cases content

section Outline

variable {P : String → Prop} [DecidablePred P]

theorem field_convertFields_restrict (files : System) {fields : List Field}
    (differ : NamesDiffer fields) (place : FieldPath) (entries : Entries) {f : Field}
    (member : f ∈ fields) :
    Value.field (convertFields files place (restrictFields P fields) entries).1 f.name
        = Value.field entries f.name
      ∨ Value.field (convertFields files place (restrictFields P fields) entries).1 f.name
        = (convertValue files (place.member f.name) (f.type.restrict P)
            (Value.field entries f.name)).1 := by
  by_cases named : P f.name
  · have left := mem_restrictFields member named
    have apart := (namesDiffer_restrictFields (P := P) fields differ).nodup
    exact field_convertFields apart place entries left
  · have foreign : f.name ∉ (restrictFields P fields).map Field.name :=
      fun again => named (mem_names_restrictFields again).1
    exact .inl (field_convertFields_of_notMem foreign place entries)

mutual
theorem outline_convertValue (files : System) : ∀ t : TypeTree, t.NamesDiffer →
    ∀ (place : FieldPath) (v : Value),
      SameOutline t v (convertValue files place (t.restrict P) v).1
  | .primitive _, _, _, _ => Iff.rfl
  | .blob streaming, _, place, v => by
    show (convertValue files place (.blob streaming) v).1 = .null ↔ v = .null
    rw [convertValue]
    split
    · exact Iff.rfl
    · rename_i given
      split
      · rename_i w content
        exact iff_of_false (blobContent_ne_null content) given
      · exact Iff.rfl
  | .document, _, place, v => by
    by_cases null : v = .null
    · rw [null]
      exact Iff.rfl
    · refine iff_of_false ?_ null
      show (convertValue files place .document v).1 ≠ .null
      unfold convertValue
      split
      · exact absurd rfl null
      · simp
      · split
        · simp
        · exact null
  | .structure members, differ, place, v => by
    cases v with
    | map entries =>
      refine outlines_converted files members differ entries _ fun f member => ?_
      have inside := field_convertFields_restrict (P := P) files differ place entries member
      exact inside.imp_right fun equal => ⟨_, equal⟩
    | _ => rfl
  | .list member, differ, place, v => by
    cases v with
    | list items =>
      have step := outline_convertValue files member differ place.element
      exact forall₂_convertEach (SameOutline.refl member) step items
    | _ => rfl
  | .map _ ⟨_, value, _, _, _⟩, differ, place, v => by
    cases v with
    | map entries =>
      have step := outline_convertValue files value differ place.value
      exact forall₂_convertEach (fun entry => ⟨rfl, SameOutline.refl value entry.2⟩)
        (fun entry => ⟨rfl, step entry.2⟩) entries
    | _ => rfl
/-- Mappings have the same outline when under each name a value is converted or stays. -/
theorem outlines_converted (files : System) : ∀ fields : List Field, NamesDiffer fields →
    ∀ entries others : Entries,
      (∀ f ∈ fields, Value.field others f.name = Value.field entries f.name
        ∨ ∃ place, Value.field others f.name
          = (convertValue files place (f.type.restrict P) (Value.field entries f.name)).1) →
      SameOutlines fields entries others
  | [], _, _, _, _ => trivial
  | ⟨name, type, required, documentation, isPayload⟩ :: rest, ⟨_, within, others⟩, entries, changed,
      converted => by
    have later := outlines_converted files rest others entries changed fun f member =>
      converted f (List.mem_cons_of_mem _ member)
    refine ⟨?_, later⟩
    rcases converted ⟨name, type, required, documentation, isPayload⟩ List.mem_cons_self with
      stays | ⟨place, equal⟩
    · have same : Value.field changed name = Value.field entries name := stays
      rw [same]
      exact SameOutline.refl type _
    · have same : Value.field changed name = _ := equal
      rw [same]
      exact outline_convertValue files type within place _
end

/-- A name has null under it before the conversion and after it, or neither. -/
theorem field_convertFields_null (files : System) {fields : List Field}
    (differ : NamesDiffer fields) (place : FieldPath) (entries : Entries) (name : String) :
    Value.field (convertFields files place (restrictFields P fields) entries).1 name = .null
      ↔ Value.field entries name = .null := by
  by_cases member : name ∈ fields.map Field.name
  · obtain ⟨f, among, rfl⟩ := List.mem_map.mp member
    rcases field_convertFields_restrict (P := P) files differ place entries among with
      stays | converted
    · rw [stays]
    · rw [converted]
      exact (outline_convertValue files f.type (differ.of_mem among) _ _).null
  · have foreign : name ∉ (restrictFields P fields).map Field.name :=
      fun again => member (mem_names_restrictFields again).2
    rw [field_convertFields_of_notMem foreign]

end Outline

/-- Converting and checking commute. The script of an input, which the lines of writable names are
read as, leaves parameters in which the required paths find missing what they found before, whatever
the files hold and however far the script comes. -/
theorem validate_script (files : System) {fields : List Field} (plain : NamesHave IsPlain fields)
    (differ : NamesDiffer fields) {entries : Entries} (json : (Value.map entries).IsJson)
    {m : Memory} (given : m treeName = some (.map entries)) (needsToken : Bool) :
    (NamesHave IsWritable fields →
        Script.read (linesOf (ofFields (.ofRoot treeName) fields))
          = some (script (ofFields (.ofRoot treeName) fields)))
      ∧ ∃ handled,
        (runAll files (script (ofFields (.ofRoot treeName) fields)) m).memory treeName
          = some (.map handled)
        ∧ validate (.map handled) (requiredTexts fields needsToken)
          = validate (.map entries) (requiredTexts fields needsToken) := by
  have run := (run_script files differ json given).1
  have converted := fun f member =>
    field_convertFields_restrict (P := IsLegible) files (f := f) differ [] entries member
  have outline : SameOutlines fields entries
      (convertFields files [] (restrictFields IsLegible fields) entries).1 := by
    refine outlines_converted (P := IsLegible) files fields differ entries _ fun f member => ?_
    exact (converted f member).imp_right fun equal => ⟨_, equal⟩
  have token := field_convertFields_null (P := IsLegible) files differ [] entries
    tokenName
  exact ⟨read_script, _, run, outline.validate_eq plain token needsToken⟩

private def parcelFields : List Field := [
  ⟨"note", .document, true, "", false⟩,
  ⟨"parts", .list (.structure [⟨"file", .blob false, true, "", false⟩,
    ⟨"label", .primitive "string", true, "", false⟩]), false, "", false⟩,
  ⟨"extra", .map ⟨"key", .primitive "string", false, "", false⟩
    ⟨"value", .blob true, true, "", false⟩, false, "", false⟩,
  ⟨"😀", .blob false, true, "", false⟩]

private def parcel : Entries := [
  (.str "extra", .map [(.str "logo", .str "a"), (.str "seal", .null)]),
  (.str "parts", .list [.map [(.str "file", .str "a")], .int 5, .map [(.str "label", .str "x")]]),
  (.str "note", .null)]

private def parcelFiles : System := ⟨.directory [("a", .file [104, 105])], []⟩

/-- A file is read and a stream opened; the same members lack, the illegible one among them. -/
theorem validate_parcel :
    NamesHave IsPlain parcelFields ∧ NamesDiffer parcelFields ∧ (Value.map parcel).IsJson
      ∧ ∃ handled,
        (runAll parcelFiles (script (ofFields (.ofRoot treeName) parcelFields))
            (Memory.set (fun _ => none) treeName (.map parcel))).memory treeName
          = some (.map handled)
        ∧ validate (.map handled) (requiredTexts parcelFields true)
          = .error (.parameter (.missingRequired
            ["note", "parts[2].file", "parts[0].label", "😀", tokenName])) := by
  have plain : NamesHave IsPlain parcelFields := by
    simp only [parcelFields, NamesHave, TypeTree.NamesHave, and_true, true_and, and_assoc]
    refine ⟨?_, ?_, ?_, ?_, ?_, ?_⟩ <;> exact isPlain_of_all (by decide) (by decide)
  have differ : NamesDiffer parcelFields := by
    simp [parcelFields, NamesDiffer, TypeTree.NamesDiffer]
  have json : (Value.map parcel).IsJson := by
    simp [parcel, Value.IsJson, EntriesJson, ItemsJson, Scalar.isJson]
  refine ⟨plain, differ, json, ?_⟩
  have commute := validate_script parcelFiles plain differ json
    (Memory.set_same (fun _ => none) _ _) true
  obtain ⟨handled, left, same⟩ := commute.2
  refine ⟨handled, left, ?_⟩
  rw [same]
  rfl

end ServiceCli.Conversion
