import ServiceCli.Model.Origin
import ServiceCli.Proofs.Data.JsonLimit
import ServiceCli.Proofs.Data.JsonValue
import ServiceCli.Proofs.Files.Text

set_option autoImplicit false
set_option relaxedAutoImplicit false

namespace ServiceCli.Model

open ServiceCli.Data ServiceCli.Files
open Json (Exceeds)
open Outcome (Answers)

def IsUnloadable (e : Failure) : Prop := ∃ cause, e = .load cause

theorem refuses {α : Type} {faults : Fault → Prop} (cause : LoadError) :
    Answers IsUnloadable faults (refuseContent cause : Outcome α) := .refused ⟨cause, rfl⟩

/-! ### Content -/

/-- The faults of content that is written in YAML. -/
inductive YamlFault (content : String) : Fault → Prop
  | read {fault : Fault} : Yaml.Document.read content = .error (.fault fault) →
    YamlFault content fault
  | endless {entries : Entries} : Yaml.Document.read content = .ok (.endless (.map entries)) →
    YamlFault content .endlessNesting

/-- Content that the grammar of JSON rules out. -/
def IsUngrammatical (content : String) : Prop :=
  ∃ e, Json.read content = .error e ∧ Fault.ofProblem? e.problem = none

/-- The faults of content whose format is expected or unknown. -/
inductive ContentFault (content : String) : Option Format → Fault → Prop
  | exceeds {expected : Option Format} {fault : Fault} : expected ≠ some .yaml →
    Exceeds content fault → ContentFault content expected fault
  | yaml {fault : Fault} : YamlFault content fault → ContentFault content (some .yaml) fault
  | fallback {fault : Fault} : IsUngrammatical content → YamlFault content fault →
    ContentFault content none fault

section Content

variable {content : String} {expected : Option Format} {fault : Fault} {entries : Entries}

theorem mappingOf_eq_ok {v : Value} : mappingOf v = .ok entries ↔ v = .map entries := by
  cases v <;> simp [mappingOf, refuseContent]

theorem mappingOf_answers (v : Value) (faults : Fault → Prop) :
    (mappingOf v).Answers IsUnloadable faults := by
  cases v <;> first | exact .ok _ | exact refuses _

theorem readYaml_answers (jsonDetail : Option String) (content : String) :
    (readYaml jsonDetail content).Answers IsUnloadable (YamlFault content) := by
  rw [readYaml.eq_def]
  split
  · exact refuses _
  · exact refuses _
  · exact mappingOf_answers _ _
  · rename_i outline read
    cases outline with
    | map entries => exact .fault (.endless read)
    | _ => exact refuses _
  · exact refuses _
  · rename_i fault read
    exact .fault (.read read)

theorem readYaml_of_fault (jsonDetail : Option String) (faulted : YamlFault content fault) :
    readYaml jsonDetail content = faulty fault := by
  rcases faulted with read | read
  · rw [readYaml, read]
  · rw [readYaml, read]
    rfl

theorem readContent_answers (expected : Option Format) (content : String) :
    (readContent expected content).Answers IsUnloadable (ContentFault content expected) := by
  rw [readContent]
  split
  · rename_i yaml
    subst yaml
    exact (readYaml_answers none content).mono fun _ => .yaml
  · rename_i other
    cases read : Json.read content with
    | ok v => exact mappingOf_answers v _
    | error e =>
      dsimp only
      split
      · rename_i fault found
        exact .fault (.exceeds other (Json.exceeds_iff.mpr ⟨e, read, found⟩))
      · rename_i grammar
        split
        · exact refuses _
        · rename_i unknown
          -- YAML is tried in place of JSON only where no format is expected
          obtain rfl : expected = none := by
            cases expected with
            | none => rfl
            | some format => cases format <;> contradiction
          exact (readYaml_answers _ content).mono fun _ => .fallback ⟨e, read, grammar⟩

theorem readContent_of_fault (faulted : ContentFault content expected fault) :
    readContent expected content = faulty fault := by
  cases faulted with
  | exceeds other exceeds =>
    obtain ⟨e, read, found⟩ := Json.exceeds_iff.mp exceeds
    simp only [readContent, other, if_false, read, found]
  | yaml faulted =>
    rw [readContent, if_pos rfl]
    exact readYaml_of_fault none faulted
  | fallback ungrammatical faulted =>
    obtain ⟨e, read, grammar⟩ := ungrammatical
    simp only [readContent, reduceCtorEq, if_false, read, grammar]
    exact readYaml_of_fault _ faulted

theorem readContent_json :
    readContent (some .json) content = .ok entries ↔ Json.read content = .ok (.map entries) := by
  cases read : Json.read content with
  | ok v =>
    simp only [readContent, Option.some.injEq, reduceCtorEq, if_false, read, mappingOf_eq_ok,
      Except.ok.injEq]
  | error e =>
    refine iff_of_false ?_ nofun
    simp only [readContent, Option.some.injEq, reduceCtorEq, if_false, read, if_true]
    split <;> exact nofun

theorem contentFault_json : ContentFault content (some .json) fault ↔ Exceeds content fault := by
  constructor
  · rintro (⟨-, exceeds⟩)
    exact exceeds
  · exact .exceeds nofun

end Content

/-! ### Files -/

def HoldsDocument (files : System) (path : Path) (content : String) : Prop :=
  isBlank content = false ∧ ∃ bytes, files.readBytes path = .ok bytes ∧ HoldsText bytes content

/-- The faults of loading a file, given those of its content. -/
inductive DocumentFault (faults : String → Fault → Prop) (files : System) (path : Path) :
    Fault → Prop
  | lookup : files.find path = refused .nameTooLong →
    DocumentFault faults files path (.system .nameTooLong)
  | textless {bytes : List UInt8} : files.readBytes path = .ok bytes → HoldsNoText bytes →
    DocumentFault faults files path .malformedEncoding
  | content {content : String} {fault : Fault} : HoldsDocument files path content →
    faults content fault → DocumentFault faults files path fault

section File

variable {files : System} {name content : String} {fault : Fault}

def formatOfPath (path : Path) : Option Format := formatOfSuffix path.suffix

theorem loadFile_of_document (holds : HoldsDocument files (.ofText name) content) :
    loadFile files name = readContent (formatOfPath (.ofText name)) content := by
  obtain ⟨filled, bytes, read, holds⟩ := holds
  have file := System.isFile_iff.mpr ⟨bytes, read⟩
  have told := System.readText_eq_ok.mpr ⟨bytes, read, holds⟩
  simp only [loadFile, file, told, filled, Bool.false_eq_true, if_false, formatOfPath]

theorem loadFile_of_textless {bytes : List UInt8}
    (read : files.readBytes (.ofText name) = .ok bytes) (textless : HoldsNoText bytes) :
    loadFile files name = faulty .malformedEncoding := by
  have file := System.isFile_iff.mpr ⟨bytes, read⟩
  obtain ⟨cause, told⟩ := System.readText_of_noText read textless
  simp only [loadFile, file, told]
  rfl

theorem loadFile_of_long (long : files.find (.ofText name) = refused .nameTooLong) :
    loadFile files name = faulty (.system .nameTooLong) := by
  have unasked := System.isFile_eq_error.mpr ⟨long, rfl⟩
  simp only [loadFile, unasked]
  rfl

theorem loadFile_cases (files : System) (name : String) :
    (∃ content, HoldsDocument files (.ofText name) content) ∨
    (∃ cause, loadFile files name = .error (.load cause)) ∨
    ∃ fault, loadFile files name = faulty fault ∧
      ∀ faults, DocumentFault faults files (.ofText name) fault := by
  cases asked : files.isFile (.ofText name) with
  | error e =>
    obtain ⟨long, rfl⟩ := System.isFile_eq_error.mp asked
    exact .inr (.inr ⟨_, loadFile_of_long long, fun _ => .lookup long⟩)
  | ok file =>
    cases file with
    | false => exact .inr (.inl ⟨.fileNotFound name, by simp only [loadFile, asked]; rfl⟩)
    | true =>
      obtain ⟨bytes, read⟩ := System.isFile_iff.mp asked
      cases told : files.readText (.ofText name) with
      | ok content =>
        cases blank : isBlank content with
        | true =>
          refine .inr (.inl ⟨.emptyFile name, ?_⟩)
          simp only [loadFile, asked, told, blank]
          rfl
        | false => exact .inl ⟨content, blank, System.readText_eq_ok.mp told⟩
      | error e =>
        obtain ⟨_, -, unread⟩ | ⟨_, _, -, read, textless⟩ := System.readText_eq_error told
        · exact nomatch read.symm.trans unread
        · exact .inr (.inr ⟨_, loadFile_of_textless read textless,
            fun _ => .textless read textless⟩)

/-- The faults of loading a file are those of its path. -/
abbrev FileFault (files : System) (path : Path) : Fault → Prop :=
  DocumentFault (fun content => ContentFault content (formatOfPath path)) files path

theorem loadFile_answers (files : System) (name : String) :
    (loadFile files name).Answers IsUnloadable (FileFault files (.ofText name)) := by
  obtain ⟨content, holds⟩ | ⟨cause, refused⟩ | ⟨fault, failed, faulted⟩ := loadFile_cases files name
  · rw [loadFile_of_document holds]
    have answers := readContent_answers (formatOfPath (.ofText name)) content
    refine answers.mono fun fault faulted => ?_
    exact DocumentFault.content holds faulted
  · rw [refused]
    exact refuses cause
  · rw [failed]
    exact .fault (faulted _)

theorem loadFile_eq_faulty :
    loadFile files name = faulty fault ↔ FileFault files (.ofText name) fault := by
  constructor
  · exact (loadFile_answers files name).of_faulty nofun
  · rintro (long | ⟨read, textless⟩ | ⟨holds, faulted⟩)
    · exact loadFile_of_long long
    · exact loadFile_of_textless read textless
    · rw [loadFile_of_document holds]
      exact readContent_of_fault faulted

theorem loadFile_eq_ok {entries : Entries} : loadFile files name = .ok entries ↔
    ∃ content, HoldsDocument files (.ofText name) content ∧
      readContent (formatOfPath (.ofText name)) content = .ok entries := by
  constructor
  · intro loaded
    obtain ⟨content, holds⟩ | ⟨cause, refused⟩ | ⟨fault, failed, -⟩ := loadFile_cases files name
    · exact ⟨content, holds, (loadFile_of_document holds).symm.trans loaded⟩
    · exact nomatch loaded.symm.trans refused
    · exact nomatch loaded.symm.trans failed
  · rintro ⟨content, holds, read⟩
    rw [loadFile_of_document holds, read]

end File

end ServiceCli.Model
