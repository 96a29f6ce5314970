import Mathlib.Logic.Function.Basic
import ServiceCli.Parameters.Argument
import ServiceCli.Proofs.Command.Plan
import ServiceCli.Proofs.Data.JsonValue
import ServiceCli.Proofs.Parameters.Overlay

set_option autoImplicit false
set_option relaxedAutoImplicit false

namespace ServiceCli.Parameters

open ServiceCli.Command ServiceCli.Data ServiceCli.Files ServiceCli.Service ServiceCli.Shape

def takesJson : TypeTree → Bool
  | .structure _ => true
  | .map _ _ => true
  | .document => true
  | .list (.structure _) => true
  | .list (.map _ _) => true
  | .list (.list _) => true
  | _ => false

theorem not_isRepeatable_of_takesJson {type : TypeTree} (json : takesJson type = true) :
    isRepeatable type = false := by
  cases type with
  | list member => cases member <;> first | rfl | exact nomatch json
  | _ => rfl

theorem flagReading_of_takesJson {type : TypeTree} (json : takesJson type = true) :
    flagReading type = .json ∨ flagReading type = .document := by
  cases type with
  | list member => cases member <;> first | exact .inl rfl | exact nomatch json
  | primitive => exact nomatch json
  | blob => exact nomatch json
  | document => exact .inr rfl
  | _ => exact .inl rfl

theorem readArgument_of_read {text : String} {v : Value} {reading : Reading}
    (json : reading = .json ∨ reading = .document) (files : System) (option : String)
    (told : Json.read text = .ok v) : readArgument files reading option (.str text) = .ok v := by
  have asJson : readJson files option (.str text) = .ok v := by
    rw [readJson.eq_def]
    dsimp only
    split
    · rename_i name marked
      exact absurd told (Json.read_marked marked)
    · rw [readJsonText, told]
  rcases json with rfl | rfl
  · exact asJson
  · exact asJson

theorem laidOver_of_isJson {v : Value} (json : v.IsJson) (below : Option Value) :
    laidOver v below = if v = .null ∨ v = .list [] then below else some v := by
  rw [laidOver]
  cases v with
  | atom a => cases a <;> simp [isGiven, givenValue]
  | list items => cases items <;> simp [isGiven, givenValue]
  | map entries => simp [isGiven, givenValue]
  | _ => exact json.elim

variable {op : Operation} {cli : String} {needsToken : Bool} {plan : Plan}

theorem flags_nodup (planned : planOf op cli needsToken = .ok plan)
    (differ : (op.inputFields.map Field.name).Nodup) : (plan.flags.map Flag.name).Nodup := by
  obtain ⟨free, rfl⟩ := planOf_eq_ok.mp planned
  exact flagsOf_nodup differ free

theorem exists_jsonFlag (planned : planOf op cli needsToken = .ok plan) {f : Field}
    (member : f ∈ op.inputFields) (json : takesJson f.type = true) :
    ∃ flag ∈ plan.flags, flag.name = f.name ∧ flag.repeatable = false ∧
      (flag.reading = .json ∨ flag.reading = .document) := by
  obtain ⟨-, rfl⟩ := planOf_eq_ok.mp planned
  obtain ⟨parameter, made⟩ := exists_flagOf member reservedNames
  exact ⟨_, List.mem_append_left _ made, rfl, not_isRepeatable_of_takesJson json,
    flagReading_of_takesJson json⟩

/-- A JSON value that is not null, given inline and laid over a file, stands under the name of the
member as if it were written in the file, but for the empty array: that one leaves what the file
holds. Every flag that counts as given wins over the file, and one that does not leaves it. -/
theorem inline_eq_written (planned : planOf op cli needsToken = .ok plan)
    (differ : (op.inputFields.map Field.name).Nodup) {f : Field} (member : f ∈ op.inputFields)
    (json : takesJson f.type = true) {text : String} {v : Value} (told : Json.read text = .ok v)
    (given_value : v ≠ .null) :
    ∃ flag ∈ plan.flags, flag.name = f.name ∧ flag.repeatable = false ∧
      (∀ files, readArgument files flag.reading flag.option (.str text) = .ok v) ∧
      ∀ (file : Entries) (given : Flag → Value),
        let inline := merge file (flagValues plan.flags (Function.update given flag v))
        let written := merge (file.put (.str f.name) v)
          (flagValues plan.flags (Function.update given flag .null))
        written.get? f.name = some v ∧
        inline.get? f.name = (if v = .list [] then file.get? f.name else some v) ∧
        (inline.get? f.name = written.get? f.name ↔ v ≠ .list [] ∨ file.get? f.name = some v) ∧
        ∀ other ∈ plan.flags, (merge file (flagValues plan.flags given)).get? other.name =
          if isGiven (given other) then some (givenValue (given other))
          else file.get? other.name := by
  have apart := flags_nodup planned differ
  obtain ⟨flag, there, named, single, reading⟩ := exists_jsonFlag planned member json
  refine ⟨flag, there, named, single, fun files => readArgument_of_read reading files _ told, ?_⟩
  intro file given inline written
  have byFlag : inline.get? f.name = if v = .list [] then file.get? f.name else some v := by
    have laid := @get?_merge_of_mem file (Function.update given flag v) _ apart _ there
    rw [Function.update_self, named, laidOver_of_isJson (Json.read_isJson told)] at laid
    simpa only [given_value, false_or] using laid
  have byFile : written.get? f.name = some v := by
    have laid := @get?_merge_of_mem (file.put (.str f.name) v) (Function.update given flag .null)
      _ apart _ there
    rw [Function.update_self, named, Entries.get?_put_same] at laid
    exact laid
  refine ⟨byFile, byFlag, ?_, fun other among => get?_merge_of_mem apart among⟩
  rw [byFlag, byFile]
  by_cases empty : v = .list []
  · simp [empty]
  · simp [empty]

private def putParts : Operation where
  name := "PutParts"
  route := "/parts"
  method := "PUT"
  documentation := ""
  traits := []
  input := some ⟨"PutPartsInput",
    [⟨"parts", .list (.structure [⟨"sku", .primitive "string", true, "", false⟩]), false, "",
      false⟩]⟩
  output := none
  authExempt := false

/-- One part without members, given inline, is what the file holds after it. -/
theorem inline_parts : ∃ plan, planOf putParts "shop" false = .ok plan ∧
    ∃ flag ∈ plan.flags, flag.name = "parts" ∧
      (merge [] (flagValues plan.flags
        (Function.update (fun _ => .null) flag (.list [.map []])))).get? "parts"
        = some (.list [.map []]) := by
  have told : Json.read "[\x7b\x7d]" = .ok (.list [.map []]) := by rfl
  have apart : (putParts.inputFields.map Field.name).Nodup := by decide
  have planned : ∃ plan, planOf putParts "shop" false = .ok plan := ⟨_, rfl⟩
  obtain ⟨plan, planned⟩ := planned
  obtain ⟨flag, there, named, -, -, merged⟩ :=
    inline_eq_written planned apart List.mem_cons_self rfl told (by simp)
  exact ⟨plan, planned, flag, there, named, (merged [] fun _ => .null).2.1⟩

private def stocked : Entries := [(.str "parts", .list [.map [(.str "sku", .str "a")]])]

/-- The empty array, given inline, leaves the parts that the file holds. -/
theorem inline_empty : ∃ plan, planOf putParts "shop" false = .ok plan ∧
    ∃ flag ∈ plan.flags, flag.name = "parts" ∧ flag.repeatable = false ∧
      (∀ files, readArgument files flag.reading flag.option (.str "[]") = .ok (.list [])) ∧
      (merge stocked (flagValues plan.flags
          (Function.update (fun _ => .null) flag (.list [])))).get? "parts"
        ≠ (merge (stocked.put (.str "parts") (.list [])) (flagValues plan.flags
          (Function.update (fun _ => .null) flag .null))).get? "parts" := by
  have apart : (putParts.inputFields.map Field.name).Nodup := by decide
  have planned : ∃ plan, planOf putParts "shop" false = .ok plan := ⟨_, rfl⟩
  obtain ⟨plan, planned⟩ := planned
  obtain ⟨flag, there, named, single, reading⟩ := exists_jsonFlag planned List.mem_cons_self rfl
  have told : Json.read "[]" = .ok (.list []) := by rfl
  refine ⟨plan, planned, flag, there, named, single,
    fun files => readArgument_of_read reading files _ told, ?_⟩
  have laid (file : Entries) (v : Value) :=
    @get?_merge_of_mem file (Function.update (fun _ => .null) flag v) _
      (flags_nodup planned apart) _ there
  have name : flag.name = "parts" := named
  simp only [name, Function.update_self] at laid
  rw [laid, laid]
  decide

end ServiceCli.Parameters
