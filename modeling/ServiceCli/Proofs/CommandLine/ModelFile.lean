import ServiceCli.Proofs.CommandLine.Build
import ServiceCli.Proofs.Console.Message
import ServiceCli.Proofs.Files.Text
import ServiceCli.Proofs.Model.Document

set_option autoImplicit false
set_option relaxedAutoImplicit false

namespace ServiceCli.CommandLine

open ServiceCli.Console ServiceCli.Data ServiceCli.Files ServiceCli.Settings
open Json (Exceeds)
open Model (ContentFault DocumentFault HoldsDocument)

/-- A request that takes its model from a source. -/
inductive ReadsModel (w : World) (source : String) : Request → Prop
  | build {given : List (Setting × String)} {dryRun : Bool} {s : Settings} :
    buildSettings w given = .ok s → s.get .model = source →
    ReadsModel w source (.build given dryRun)
  | operations {given : List (Setting × String)} {s : Settings} :
    settingsOf w given = .ok s → s.given? .model = some source →
    ReadsModel w source (.operations given)
  | parameters {operation : String} {given : List (Setting × String)} {s : Settings} :
    settingsOf w given = .ok s → s.given? .model = some source →
    ReadsModel w source (.parameters operation given)

/-- Writing what went wrong to the log of a crash. -/
def logging (w : World) (f : Failure) : System × Answer Unit :=
  w.files.writeFile (crashLog w) (Text.encode (crashText f))

/-- A run ends in a crash: it has printed nothing, and what went wrong is in the log; or it comes to
no end, because the log cannot be written. -/
inductive Crashes (w : World) (f : Failure) : Outcome Conclusion → Prop
  | logged {c : Conclusion} : logging w f = (c.record.files, .ok ()) → c.status = crashStatus →
    c.record.output = "" → Crashes w f (.ok c)
  | unlogged {files : System} {e : PathError} : logging w f = (files, .error e) →
    Crashes w f (.error e.failure)

section Session

variable {w : World} {source : String} {request : Request} {f : Failure}
variable {given : List (Setting × String)}

theorem loadModel_of_failure (failed : Model.load w source = .error f) :
    loadModel w source = .error f := by
  rw [loadModel, failed]
  rfl

theorem note_settings (m : Manner) (entries : Entries) (r : Record) : ∃ told : Record,
    told.files = r.files ∧ told.output = r.output ∧
      (Session.note m (.settings entries)).after r = (.ok (), told) := by
  obtain ⟨text, shown⟩ := message_debug m ("settings: " ++ Literal.ofValue (.map entries))
  rw [Session.note]
  split
  · refine ⟨{ r with messages := r.messages ++ text }, rfl, rfl, ?_⟩
    rw [Notice.shown, shown]
    rfl
  · exact ⟨r, rfl, rfl, rfl⟩

theorem build_of_failure {s : Settings} (m : Manner) (dryRun : Bool) (r : Record)
    (settled : buildSettings w given = .ok s) (failed : Model.load w (s.get .model) = .error f) :
    ∃ told : Record, told.files = r.files ∧ told.output = r.output ∧
      (build w m given dryRun).after r = (.error f, told) := by
  -- the settings are told before the model is loaded, so this notice is all that is left
  have unprepared : prepare w given = ([.settings (settingEntries s)], .error f) := by
    rw [prepare, settled]
    simp only [loadInputs, loadModel_of_failure failed, Outcome.error_bind]
  obtain ⟨told, files, output, noted⟩ := note_settings m (settingEntries s) r
  have once : Session.after ([Notice.settings (settingEntries s)].forM (Session.note m)) r
      = (.ok ⟨⟩, told) := Session.after_bind_ok noted
  refine ⟨told, files, output, ?_⟩
  rw [build, unprepared]
  dsimp only
  rw [Session.forIn_eq_forM, Session.after_bind_ok once]
  exact Session.after_bind_error rfl

theorem inspected_of_failure {s : Settings} (settled : settingsOf w given = .ok s)
    (named : s.given? .model = some source) (failed : Model.load w source = .error f) :
    inspected w given = .error f := by
  rw [inspected, settled, Outcome.ok_bind, named]
  simp only [loadModel_of_failure failed]
  rfl

theorem readService_of_failure {m : Manner} {r : Record} (failed : inspected w given = .error f) :
    (readService w m given).after r = (.error f, r) := by
  rw [readService, failed]
  exact Session.after_bind_error rfl

theorem session_of_failure (reads : ReadsModel w source request)
    (failed : Model.load w source = .error f) (m : Manner) (r : Record) :
    ∃ told : Record, told.files = r.files ∧ told.output = r.output ∧
      (sessionOf w m request).after r = (.error f, told) := by
  cases reads with
  | build settled named =>
    subst named
    exact build_of_failure m _ r settled failed
  | operations settled named =>
    have unread := inspected_of_failure settled named failed
    exact ⟨r, rfl, rfl, Session.after_bind_error (readService_of_failure unread)⟩
  | parameters settled named =>
    have unread := inspected_of_failure settled named failed
    exact ⟨r, rfl, rfl, Session.after_bind_error (readService_of_failure unread)⟩

end Session

section Run

variable {w : World} {source : String} {request : Request} {f : Failure} {line : List String}
variable {a : Arguments}

theorem run_of_reads (asked : requestOf line = .ok (a, request))
    (reads : ReadsModel w source request) : run w line
      = conclude w (mannerOf w a) ((sessionOf w (mannerOf w a) request).execute w.files) := by
  cases reads with
  | _ =>
    rw [run, asked]
    exact bind_pure _

theorem run_of_failure (asked : requestOf line = .ok (a, request))
    (reads : ReadsModel w source request) (failed : Model.load w source = .error f) :
    ∃ told : Record, told.files = w.files ∧ told.output = "" ∧
      run w line = conclude w (mannerOf w a) (.error f, told) := by
  obtain ⟨told, files, output, ends⟩ :=
    session_of_failure reads failed (mannerOf w a) (.ofFiles w.files)
  refine ⟨told, files, output, ?_⟩
  rw [run_of_reads asked reads, Session.execute_eq, ends]

theorem run_of_loadError {cause : LoadError} (asked : requestOf line = .ok (a, request))
    (reads : ReadsModel w source request) (failed : Model.load w source = .error (.load cause)) :
    ∃ c, run w line = .ok c ∧ c.status = 7 ∧ c.record.files = w.files ∧ c.record.output = "" := by
  obtain ⟨told, files, output, ends⟩ := run_of_failure asked reads failed
  obtain ⟨messages, concluded⟩ :=
    conclude_known (w := w) (m := mannerOf w a) (r := told) (f := .load cause) rfl
  exact ⟨_, ends.trans concluded, rfl, files, output⟩

theorem crash_crashes {m : Manner} {r : Record} (files : r.files = w.files)
    (output : r.output = "") : Crashes w f (crash w m r f) := by
  cases written : logging w f with
  | mk after answer =>
    have wrote := written
    rw [logging] at wrote
    rw [crash, files]
    simp only [wrote]
    cases answer with
    | error e => exact .unlogged written
    | ok _ =>
      obtain ⟨told, tells⟩ := message_error m ("Unexpected error. Debug log: " ++ (crashLog w).text)
      simp only [Record.withError, tells]
      exact .logged written rfl output

theorem Crashes.exists_conclusion {ended : Outcome Conclusion} (crashes : Crashes w f ended)
    (logs : (logging w f).2.toOption.isSome = true) :
    ∃ c, ended = .ok c ∧ c.status = crashStatus := by
  cases crashes with
  | logged _ status => exact ⟨_, rfl, status⟩
  | unlogged written =>
    rw [written] at logs
    exact nomatch logs

theorem run_of_loadFault {fault : Fault} (asked : requestOf line = .ok (a, request))
    (reads : ReadsModel w source request) (failed : Model.load w source = faulty fault) :
    Crashes w (.fault fault) (run w line) := by
  obtain ⟨told, files, output, ends⟩ := run_of_failure asked reads failed
  rw [ends]
  exact crash_crashes files output

end Run

section JsonFile

variable {w : World} {source : String}

theorem load_eq_loadFile (named : Model.isAddress source = false)
    (ends : ".json".toList <:+ source.toList) :
    Model.load w source = Model.loadFile w.files source := by
  have other : source ≠ Model.standardInput := by
    rintro rfl
    exact absurd ends (by decide)
  rw [Model.load, if_neg other, named]
  rfl

theorem formatOfPath_json (ends : ".json".toList <:+ source.toList) :
    Model.formatOfPath (.ofText source)
      = if (Path.ofText source).name = ".json" then none else some .json := by
  have suffix := @Path.suffix_ofText source "json".toList ends (by decide) (by decide) (by decide)
  have bare : String.ofList ('.' :: "json".toList) = ".json" := rfl
  rw [Model.formatOfPath, suffix, bare]
  split
  · rfl
  · rfl

/-- Loading a path that ends in `.json` gives a mapping, is refused with a load error or is at
fault; it is at fault exactly when the path is too long to look for, when the file holds no text,
or when its content is at fault. Unless the file has no other name, what is given is the JSON object
of its text, and its content is at fault exactly when it exceeds the limit of the JSON reader, which
no short text does. A run that reads its model from such a path ends with the status of load errors
when it is refused, with no file changed; where it is at fault, the run ends in a crash. What the
machine adds is left out: files that may not be read, and texts too deep to recurse into. -/
theorem load_jsonFile (w : World) {source : String} (named : Model.isAddress source = false)
    (ends : ".json".toList <:+ source.toList) :
    ((∃ entries, Model.load w source = .ok entries) ∨
      (∃ cause, Model.load w source = .error (.load cause)) ∨
      ∃ fault, Model.load w source = faulty fault) ∧
    (∀ fault, Model.load w source = faulty fault ↔
      Model.FileFault w.files (.ofText source) fault) ∧
    ((Path.ofText source).name ≠ ".json" →
      (∀ entries, Model.load w source = .ok entries ↔
        ∃ content, HoldsDocument w.files (.ofText source) content ∧
          Json.read content = .ok (.map entries)) ∧
      (∀ entries, Model.load w source = .ok entries → (Value.map entries).IsJson) ∧
      (∀ fault, Model.load w source = faulty fault ↔
        DocumentFault Exceeds w.files (.ofText source) fault) ∧
      ∀ content, HoldsDocument w.files (.ofText source) content →
        content.length ≤ Number.digitLimit → ∀ fault, Model.load w source ≠ faulty fault) ∧
    ∀ line a request, requestOf line = .ok (a, request) → ReadsModel w source request →
      (∀ cause, Model.load w source = .error (.load cause) → ∃ c, run w line = .ok c ∧
        c.status = 7 ∧ c.record.files = w.files ∧ c.record.output = "") ∧
      ∀ fault, Model.load w source = faulty fault → Crashes w (.fault fault) (run w line) := by
  have loads := load_eq_loadFile (w := w) named ends
  refine ⟨?_, ?_, fun suffixed => ?_, fun line a request asked reads =>
    ⟨fun cause => run_of_loadError asked reads, fun fault => run_of_loadFault asked reads⟩⟩
  · rw [loads]
    obtain loaded | ⟨_, failed, cause, rfl⟩ | ⟨fault, failed, -⟩ :=
      (Model.loadFile_answers w.files source).kinds
    · exact .inl loaded
    · exact .inr (.inl ⟨cause, failed⟩)
    · exact .inr (.inr ⟨fault, failed⟩)
  · intro fault
    rw [loads, Model.loadFile_eq_faulty]
  · have format : Model.formatOfPath (.ofText source) = some .json := by
      rw [formatOfPath_json ends, if_neg suffixed]
    have object (entries : Entries) : Model.load w source = .ok entries ↔
        ∃ content, HoldsDocument w.files (.ofText source) content ∧
          Json.read content = .ok (.map entries) := by
      rw [loads, Model.loadFile_eq_ok, format]
      simp only [Model.readContent_json]
    refine ⟨object, fun entries loaded => ?_, fun fault => ?_,
      fun content holds short fault failed => ?_⟩
    · obtain ⟨content, -, read⟩ := (object entries).mp loaded
      exact Json.read_isJson read
    · have limits : (fun content => ContentFault content (some .json)) = Exceeds := by
        funext content fault
        exact propext Model.contentFault_json
      rw [loads, Model.loadFile_eq_faulty, Model.FileFault, format, limits]
    · rw [loads, Model.loadFile_of_document holds, format] at failed
      have faulted := (Model.readContent_answers (some .json) content).of_faulty nofun failed
      exact absurd (Model.contentFault_json.mp faulted).length (Nat.not_lt.mpr short)

/-- A workplace with a model in a file, and another file that holds no text. -/
private def workplace : World where
  files := ⟨.directory [
    ("m.json", .file (Text.encode "[1]")),
    ("x.json", .file [0xff])], []⟩
  environment := []
  input := ""
  fetch address := .failure address
  platform := "Linux"
  time := "0"

private def listingLine (source : String) : List String := ["inspect", "operations", "-m", source]

private def listing (source : String) : Request := .operations [(.model, source)]

/-- A run whose model is a JSON list ends with the status of load errors. -/
theorem load_jsonFile_list : ∃ c, run workplace (listingLine "m.json") = .ok c ∧
    c.status = 7 ∧ c.record.files = workplace.files ∧ c.record.output = "" := by
  have named : Model.isAddress "m.json" = false := rfl
  have ends : ".json".toList <:+ "m.json".toList := by decide
  have asked : requestOf (listingLine "m.json")
      = .ok (⟨[], listingLine "m.json"⟩, listing "m.json") := rfl
  have reads : ReadsModel workplace "m.json" (listing "m.json") := .operations rfl rfl
  have holds : HoldsDocument workplace.files (.ofText "m.json") "[1]" :=
    ⟨rfl, _, rfl, "[1]", rfl, rfl⟩
  have failed : Model.load workplace "m.json" = .error (.load (.notObject "list")) := by
    rw [load_eq_loadFile named ends, Model.loadFile_of_document holds]
    rfl
  obtain ⟨-, -, -, runs⟩ := load_jsonFile workplace named ends
  exact (runs _ _ _ asked reads).1 _ failed

/-- A file that holds no text is a fault and no load error, and a run that reads it ends in a
crash. -/
theorem load_jsonFile_textless :
    Model.load workplace "x.json" = faulty .malformedEncoding ∧
    ∃ c, run workplace (listingLine "x.json") = .ok c ∧ c.status = crashStatus := by
  have asked : requestOf (listingLine "x.json")
      = .ok (⟨[], listingLine "x.json"⟩, listing "x.json") := rfl
  have reads : ReadsModel workplace "x.json" (listing "x.json") := .operations rfl rfl
  have failed : Model.load workplace "x.json" = faulty .malformedEncoding := rfl
  have logs : (logging workplace (.fault .malformedEncoding)).2.toOption.isSome = true := by
    decide +kernel
  exact ⟨failed, (run_of_loadFault asked reads failed).exists_conclusion logs⟩

end JsonFile

end ServiceCli.CommandLine
