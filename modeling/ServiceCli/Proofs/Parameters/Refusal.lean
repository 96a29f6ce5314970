import ServiceCli.Parameters.Argument
import ServiceCli.Parameters.Merge
import ServiceCli.Proofs.Data.JsonLimit
import ServiceCli.Proofs.Files.Text

/-!
What is refused of the text given to a flag, and of a parameter file. Main statement: the reading of
an argument gives a value, or a refusal that names the flag, or a fault; and the faults are exactly
these: a path that is too long to look for, a name that no file can have, a file that holds no text,
and a JSON text that exceeds a limit of the reader.
-/

set_option autoImplicit false
set_option relaxedAutoImplicit false

namespace ServiceCli

def ParameterError.Names (flag : String) : ParameterError → Prop
  | .invalidArgument named _ => named = flag
  | .invalidJson named _ => named = flag
  | _ => False

/-- The wording of a refusal starts with the flag that it names. -/
theorem ParameterError.Names.message {flag : String} {cause : ParameterError}
    (names : cause.Names flag) : ∃ detail, cause.message = flag ++ ": " ++ detail := by
  cases cause with
  | invalidArgument named detail => exact ⟨detail, by rw [← names]; rfl⟩
  | invalidJson named problem =>
    have spelt : (ParameterError.invalidJson named problem).message
        = named ++ (": " ++ "invalid JSON (") ++ problem.message ++ ")" := rfl
    refine ⟨"invalid JSON (" ++ problem.message ++ ")", ?_⟩
    rw [spelt, ← names]
    simp only [String.append_assoc]
  | _ => exact names.elim

namespace Parameters

open ServiceCli.Command ServiceCli.Data ServiceCli.Files
open Json (Exceeds)
open Outcome (Answers)

/-- The faults of reading a JSON file. -/
inductive FileFault (files : System) (path : Path) : Fault → Prop
  | unnameable : path.isUnnameable = true → FileFault files path .malformedValue
  | textless {bytes : List UInt8} : files.readBytes path = .ok bytes → HoldsNoText bytes →
    FileFault files path .malformedEncoding
  | exceeds {bytes : List UInt8} {text : String} {fault : Fault} :
    files.readBytes path = .ok bytes → HoldsText bytes text → Exceeds text fault →
    FileFault files path fault

def IsJsonReading (reading : Reading) : Prop := reading = .json ∨ reading = .document

/-- The faults of reading the text given to a flag. -/
inductive ArgumentFault (files : System) : Reading → String → Fault → Prop
  | lookup {text : String} : files.find (.ofText text) = refused .nameTooLong →
    ArgumentFault files .file text (.system .nameTooLong)
  | inline {reading : Reading} {text : String} {fault : Fault} :
    IsJsonReading reading → text.toList.head? ≠ some '@' → Exceeds text fault →
    ArgumentFault files reading text fault
  | named {reading : Reading} {text : String} {name : List Char} {fault : Fault} :
    IsJsonReading reading → text.toList = '@' :: name →
    FileFault files (.ofText (String.ofList name)) fault → ArgumentFault files reading text fault

def IsRefusal (kind : ParameterError → Prop) (e : Failure) : Prop :=
  ∃ cause, e = .parameter cause ∧ kind cause

theorem refuses {α : Type} {kind : ParameterError → Prop} {faults : Fault → Prop}
    {cause : ParameterError} (refused : kind cause) :
    Answers (IsRefusal kind) faults (.error (.parameter cause) : Outcome α) :=
  .refused ⟨cause, rfl, refused⟩

/-! ### JSON texts and the files that hold them -/

section Text

variable {files : System} {path : Path} {flag text : String} {fault : Fault}

theorem readJsonText_answers :
    Answers (IsRefusal (ParameterError.Names flag)) (Exceeds text) (readJsonText flag text) := by
  rw [readJsonText]
  cases read : Json.read text with
  | ok v => exact .ok v
  | error e =>
    dsimp only
    split
    · rename_i fault found
      exact .fault (Json.exceeds_iff.mpr ⟨e, read, found⟩)
    · exact refuses rfl

theorem readJsonText_of_exceeds (exceeds : Exceeds text fault) :
    readJsonText flag text = faulty fault := by
  obtain ⟨e, read, found⟩ := Json.exceeds_iff.mp exceeds
  simp only [readJsonText, read, found]

theorem parametersOfText_answers :
    Answers (IsRefusal fun _ => True) (Exceeds text) (parametersOfText path text) := by
  rw [parametersOfText]
  cases read : Json.read text with
  | ok v =>
    split
    · exact .ok _
    · exact refuses trivial
    · rename_i same
      exact nomatch same
  | error e =>
    dsimp only
    split
    · rename_i fault found
      exact .fault (Json.exceeds_iff.mpr ⟨e, read, found⟩)
    · exact refuses trivial

theorem parametersOfText_of_exceeds (exceeds : Exceeds text fault) :
    parametersOfText path text = faulty fault := by
  obtain ⟨e, read, found⟩ := Json.exceeds_iff.mp exceeds
  simp only [parametersOfText, read, found]

def fileText (refusal : SystemError → ParameterError) (files : System) (path : Path) :
    Outcome String :=
  match files.readText path with
  | .ok text => .ok text
  | .error (.path (.refused cause)) => .error (.parameter (refusal cause))
  | .error e => .error e.failure

variable {α : Type} {refusal : SystemError → ParameterError} {read : String → Outcome α}
variable {kind : ParameterError → Prop}

theorem fileText_answers (refused : ∀ cause, kind (refusal cause))
    (answers : ∀ text, Answers (IsRefusal kind) (Exceeds text) (read text)) :
    Answers (IsRefusal kind) (FileFault files path) (fileText refusal files path >>= read) := by
  rw [fileText]
  cases told : files.readText path with
  | ok text =>
    obtain ⟨bytes, here, holds⟩ := System.readText_eq_ok.mp told
    exact (answers text).mono (fun _ => .exceeds here holds)
  | error e =>
    obtain ⟨cause, rfl, unread⟩ | ⟨cause, bytes, rfl, here, textless⟩ :=
      System.readText_eq_error told
    · cases cause with
      | unnameable => exact .fault (.unnameable (System.readBytes_eq_unnameable.mp unread))
      | refused cause => exact refuses (refused cause)
    · exact .fault (.textless here textless)

theorem fileText_of_fault (faulted : FileFault files path fault)
    (exceeds : ∀ text, Exceeds text fault → read text = faulty fault) :
    fileText refusal files path >>= read = faulty fault := by
  cases faulted with
  | unnameable unnameable =>
    have unread := System.readBytes_eq_unnameable (s := files).mpr unnameable
    rw [fileText, System.readText_of_unread unread]
    rfl
  | textless here textless =>
    obtain ⟨cause, told⟩ := System.readText_of_noText here textless
    rw [fileText, told]
    rfl
  | exceeds here holds exceeding =>
    rw [fileText, System.readText_eq_ok.mpr ⟨_, here, holds⟩]
    exact exceeds _ exceeding

end Text

/-! ### Arguments -/

section Argument

variable {files : System} {flag text : String} {fault : Fault}

theorem readScalar_answers {reading : Reading} (pathless : reading ≠ .file)
    (scalar : ¬IsJsonReading reading) :
    Answers (IsRefusal (ParameterError.Names flag)) (ArgumentFault files reading text)
      (readArgument files reading flag (.str text)) := by
  cases reading with
  | text => exact .ok _
  | integer =>
    rw [readArgument, readInteger]
    split
    · exact .ok _
    · exact refuses rfl
  | float =>
    rw [readArgument, readFloat]
    split
    · exact .ok _
    · exact refuses rfl
  | boolean =>
    rw [readArgument, readBoolean]
    generalize Text.lower (Text.strip (Literal.text (.str text))) = word
    by_cases affirmed : trueWords.contains word = true
    · rw [if_pos affirmed]
      exact .ok _
    · rw [if_neg affirmed]
      split
      · exact .ok _
      · exact refuses rfl
  | file => exact absurd rfl pathless
  | json => exact absurd (.inl rfl) scalar
  | document => exact absurd (.inr rfl) scalar

theorem readFilePath_answers :
    Answers (IsRefusal (ParameterError.Names flag)) (ArgumentFault files .file text)
      (readFilePath files flag (.str text)) := by
  rw [readFilePath]
  cases asked : files.isFile (.ofText text) with
  | ok file =>
    cases file
    · exact refuses rfl
    · exact .ok _
  | error e =>
    obtain ⟨long, rfl⟩ := System.isFile_eq_error.mp asked
    exact .fault (.lookup long)

theorem readFilePath_of_long (long : files.find (.ofText text) = refused .nameTooLong) :
    readFilePath files flag (.str text) = faulty (.system .nameTooLong) := by
  rw [readFilePath, System.isFile_eq_error.mpr ⟨long, rfl⟩]
  rfl

theorem readArgument_json {reading : Reading} (json : IsJsonReading reading) (given : Value) :
    readArgument files reading flag given = readJson files flag given := by
  rcases json with rfl | rfl <;> rfl

theorem readJson_marked {name : List Char} (marked : text.toList = '@' :: name) :
    readJson files flag (.str text) =
      fileText (fun cause => .invalidArgument flag
        s!"cannot read {(Path.ofText (String.ofList name)).text}: {cause.message}")
        files (.ofText (String.ofList name)) >>= readJsonText flag := by
  rw [readJson.eq_def]
  dsimp only
  split
  · rename_i other spelt
    cases spelt.symm.trans marked
    rfl
  · rename_i plain
    exact absurd marked (plain name)

theorem readJson_plain (plain : text.toList.head? ≠ some '@') :
    readJson files flag (.str text) = readJsonText flag text := by
  rw [readJson.eq_def]
  dsimp only
  split
  · rename_i name marked
    rw [marked] at plain
    exact absurd rfl plain
  · rfl

theorem readJson_answers {reading : Reading} (json : IsJsonReading reading) :
    Answers (IsRefusal (ParameterError.Names flag)) (ArgumentFault files reading text)
      (readJson files flag (.str text)) := by
  by_cases plain : text.toList.head? = some '@'
  · obtain ⟨name, marked⟩ := List.head?_eq_some_iff.mp plain
    have file : Answers (IsRefusal (ParameterError.Names flag))
        (FileFault files (.ofText (String.ofList name))) (readJson files flag (.str text)) := by
      rw [readJson_marked marked]
      exact fileText_answers (fun _ => rfl) fun _ => readJsonText_answers
    exact file.mono fun fault faulted => .named json marked faulted
  · rw [readJson_plain plain]
    exact readJsonText_answers.mono fun fault exceeds => .inline json plain exceeds

theorem readArgument_answers (files : System) (reading : Reading) (flag text : String) :
    Answers (IsRefusal (ParameterError.Names flag)) (ArgumentFault files reading text)
      (readArgument files reading flag (.str text)) := by
  by_cases file : reading = .file
  · subst file
    exact readFilePath_answers
  by_cases json : IsJsonReading reading
  · rw [readArgument_json json]
    exact readJson_answers json
  · exact readScalar_answers file json

theorem readArgument_of_fault {reading : Reading}
    (faulted : ArgumentFault files reading text fault) (flag : String) :
    readArgument files reading flag (.str text) = faulty fault := by
  cases faulted with
  | lookup long => exact readFilePath_of_long long
  | inline json plain exceeds =>
    rw [readArgument_json json, readJson_plain plain, readJsonText_of_exceeds exceeds]
  | named json marked faulted =>
    rw [readArgument_json json, readJson_marked marked,
      fileText_of_fault faulted fun _ exceeds => readJsonText_of_exceeds exceeds]

end Argument

/-! ### Parameter files -/

section File

variable {files : System} {argument : String} {fault : Fault}

theorem loadFile_some (files : System) (argument : String) :
    loadFile files (some argument) =
      fileText
        (fun cause => .unreadableFile (Path.ofText (withoutMark argument)).text cause.message)
        files (.ofText (withoutMark argument))
      >>= parametersOfText (.ofText (withoutMark argument)) := by
  rw [loadFile.eq_def, fileText]
  dsimp only
  cases files.readText (.ofText (withoutMark argument)) with
  | ok text => rfl
  | error e =>
    cases e with
    | path cause => cases cause <;> rfl
    | encoding cause bytes => rfl

theorem loadFile_answers (files : System) (argument : String) :
    Answers (IsRefusal fun _ => True) (FileFault files (.ofText (withoutMark argument)))
      (loadFile files (some argument)) := by
  rw [loadFile_some]
  exact fileText_answers (fun _ => trivial) fun _ => parametersOfText_answers

theorem loadFile_of_fault (faulted : FileFault files (.ofText (withoutMark argument)) fault) :
    loadFile files (some argument) = faulty fault := by
  rw [loadFile_some, fileText_of_fault faulted fun _ exceeds => parametersOfText_of_exceeds exceeds]

end File

theorem not_argumentFault_of_short {files : System} {reading : Reading} {text : String}
    (pathless : reading ≠ .file) (plain : text.toList.head? ≠ some '@')
    (short : text.length ≤ Number.digitLimit) (fault : Fault) :
    ¬ArgumentFault files reading text fault := by
  intro faulted
  cases faulted with
  | lookup => exact pathless rfl
  | inline _ _ exceeds => exact absurd exceeds.length (Nat.not_lt.mpr short)
  | named _ marked => exact plain (by rw [marked]; rfl)

/-- The text given to a flag is read as a value, or refused by a message that starts with the flag,
or it is at fault; it is at fault exactly when the path of a file is too long to look for, when a
name of a JSON file is no name, or when what should be JSON is no text or exceeds the limit of the
JSON reader, which no short text does. A parameter file is read, refused or at fault likewise. What
the machine adds is left out: files that may not be read, and texts too deep to recurse into. -/
theorem reading_outcomes (files : System) :
    (∀ (reading : Reading) (flag text : String),
      ((∃ v, readArgument files reading flag (.str text) = .ok v) ∨
        (∃ cause, readArgument files reading flag (.str text) = .error (.parameter cause) ∧
          cause.Names flag ∧ ∃ detail, cause.message = flag ++ ": " ++ detail) ∨
        ∃ fault, readArgument files reading flag (.str text) = faulty fault) ∧
      (∀ fault, readArgument files reading flag (.str text) = faulty fault ↔
        ArgumentFault files reading text fault) ∧
      (reading ≠ .file → text.toList.head? ≠ some '@' → text.length ≤ Number.digitLimit →
        ∀ fault, readArgument files reading flag (.str text) ≠ faulty fault)) ∧
    loadFile files none = .ok [] ∧
    ∀ argument : String,
      ((∃ entries, loadFile files (some argument) = .ok entries) ∨
        (∃ cause, loadFile files (some argument) = .error (.parameter cause)) ∨
        ∃ fault, loadFile files (some argument) = faulty fault) ∧
      ∀ fault, loadFile files (some argument) = faulty fault ↔
        FileFault files (.ofText (withoutMark argument)) fault := by
  refine ⟨fun reading flag text => ?_, rfl, fun argument => ?_⟩
  · have answers := readArgument_answers files reading flag text
    have faults (fault : Fault) : readArgument files reading flag (.str text) = faulty fault ↔
        ArgumentFault files reading text fault :=
      ⟨answers.of_faulty nofun, fun faulted => readArgument_of_fault faulted flag⟩
    refine ⟨?_, faults, fun pathless plain short fault failed =>
      not_argumentFault_of_short pathless plain short fault ((faults fault).mp failed)⟩
    obtain read | ⟨_, failed, cause, rfl, names⟩ | ⟨fault, failed, -⟩ := answers.kinds
    · exact .inl read
    · exact .inr (.inl ⟨cause, failed, names, names.message⟩)
    · exact .inr (.inr ⟨fault, failed⟩)
  · have answers := loadFile_answers files argument
    refine ⟨?_, fun fault => ⟨answers.of_faulty nofun, loadFile_of_fault⟩⟩
    obtain read | ⟨_, failed, cause, rfl, -⟩ | ⟨fault, failed, -⟩ := answers.kinds
    · exact .inl read
    · exact .inr (.inl ⟨cause, failed⟩)
    · exact .inr (.inr ⟨fault, failed⟩)

/-- A directory with a file of one byte that encodes no text. -/
private def textlessFiles : System := ⟨.directory [("x.json", .file [0xff])], []⟩

/-- A file that holds no text is a fault, for a flag and as a parameter file, and no refusal. -/
theorem reading_outcomes_textless :
    readArgument textlessFiles .json "--x" (.str "@x.json") = faulty .malformedEncoding ∧
    loadFile textlessFiles (some "@x.json") = faulty .malformedEncoding :=
  ⟨rfl, rfl⟩

end Parameters

end ServiceCli
