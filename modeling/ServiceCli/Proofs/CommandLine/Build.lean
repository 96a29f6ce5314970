import Mathlib.Data.List.Forall2
import Mathlib.Data.List.TakeWhile
import ServiceCli.CommandLine.Run
import ServiceCli.Proofs.CommandLine.Line
import ServiceCli.Proofs.Console.Message

set_option autoImplicit false
set_option relaxedAutoImplicit false

namespace ServiceCli.CommandLine

open ServiceCli.Console ServiceCli.Files ServiceCli.Package ServiceCli.Settings

/-- A result of a step that only tells, after a record. -/
structure Tells {α : Type} (r : Record) (result : Outcome α × Record) : Prop where
  files : result.2.files = r.files
  output : result.2.output = r.output
  faults : result.1.FaultsOnly

namespace Session

variable {α β : Type}

def after (s : Session α) (r : Record) : Outcome α × Record := (ExceptT.run s).run r

def OnlyTells (s : Session α) : Prop := ∀ r, Tells r (s.after r)

theorem execute_eq (s : Session Unit) (files : Files.System) :
    s.execute files = s.after (Record.ofFiles files) := rfl

section After

variable {s : Session α} {next : α → Session β} {r r' : Record}

theorem after_bind (s : Session α) (next : α → Session β) (r : Record) :
    (s >>= next).after r = match s.after r with
      | (.ok a, r') => (next a).after r'
      | (.error f, r') => (.error f, r') := by
  have step : (s >>= next).after r
      = (ExceptT.bindCont next ((ExceptT.run s).run r).1).run ((ExceptT.run s).run r).2 := rfl
  rw [step, ← after]
  rcases s.after r with ⟨_ | _, r'⟩
  · rfl
  · rfl

theorem after_bind_ok {a : α} (first : s.after r = (.ok a, r')) :
    (s >>= next).after r = (next a).after r' := by
  rw [after_bind, first]

theorem after_bind_error {f : Failure} (first : s.after r = (.error f, r')) :
    (s >>= next).after r = (.error f, r') := by
  rw [after_bind, first]

end After

namespace OnlyTells

theorem pure (a : α) : OnlyTells (Pure.pure a) := fun _ => ⟨rfl, rfl, .ok a⟩

theorem bind {s : Session α} {next : α → Session β} (first : s.OnlyTells)
    (later : ∀ a, (next a).OnlyTells) : (s >>= next).OnlyTells := by
  intro r
  have start := first r
  cases result : s.after r with
  | mk outcome r' =>
    rw [result] at start
    cases outcome with
    | error f =>
      rw [after_bind_error result]
      refine ⟨start.files, start.output, fun g same => ?_⟩
      cases same
      exact start.faults f rfl
    | ok a =>
      have rest := later a r'
      rw [after_bind_ok result]
      exact ⟨rest.files.trans start.files, rest.output.trans start.output, rest.faults⟩

theorem lift {o : Outcome α} (faults : o.FaultsOnly) : OnlyTells (liftM o) :=
  fun _ => ⟨rfl, rfl, faults⟩

theorem report (text : String) : OnlyTells (Session.report text) := fun _ => ⟨rfl, rfl, .ok ()⟩

theorem tell (m : Manner) (kind : Kind) (text : String) : OnlyTells (Session.tell m kind text) :=
  .bind (.lift (message_faultsOnly m kind text)) fun told => .report told

theorem note (m : Manner) (n : Notice) : OnlyTells (Session.note m n) := by
  have shown : (n.shown m).FaultsOnly := by
    cases n with
    | settings entries => exact message_faultsOnly m .debug _
    | _ => exact .ok _
  rw [Session.note]
  split
  · exact .bind (.lift shown) fun told => .report told
  · exact .pure ()

theorem forM {ι : Type} {step : ι → Session PUnit} (own : ∀ i, (step i).OnlyTells)
    (items : List ι) : OnlyTells (items.forM step) := by
  induction items with
  | nil => exact .pure _
  | cons i items ih => exact .bind (own i) fun _ => ih

end OnlyTells

theorem forIn_eq_forM {ι : Type} (step : ι → Session PUnit) (items : List ι) :
    (forIn items PUnit.unit fun i _ => do
      step i
      return ForInStep.yield PUnit.unit) = items.forM step := by
  induction items with
  | nil => rfl
  | cons i items ih =>
    rw [List.forIn_cons, bind_assoc]
    simp only [pure_bind, ih]
    rfl

theorem after_print {ι : Type} (text : ι → String) (items : List ι) (r : Record) :
    after (items.forM fun i => Session.print (text i)) r
      = (.ok ⟨⟩, { r with output := r.output ++ String.join (items.map text) }) := by
  induction items generalizing r with
  | nil =>
    simp
    rfl
  | cons i items ih =>
    have own : (Session.print (text i)).after r
        = (.ok ⟨⟩, { r with output := r.output ++ text i }) := rfl
    have step : after (List.forM (i :: items) fun i => Session.print (text i)) r
        = after (items.forM fun i => Session.print (text i))
          { r with output := r.output ++ text i } :=
      after_bind_ok own
    rw [step, ih, List.map_cons, String.join_cons, String.append_assoc]

end Session

/-- A failure that is met once a package is ready: a fault, or a file that cannot be written. -/
def IsLate (f : Failure) : Prop :=
  (∃ fault, f = .fault fault) ∨ ∃ path reason, f = .output path reason

/-- What a step does that may fail late: it leaves these files and prints nothing. -/
structure Ends {α : Type} (files : System) (r : Record) (result : Outcome α × Record) : Prop where
  files : result.2.files = files
  output : result.2.output = r.output
  late : ∀ f, result.1 = .error f → IsLate f

theorem Tells.ends {α : Type} {r : Record} {result : Outcome α × Record} (tells : Tells r result) :
    Ends r.files r result :=
  ⟨tells.files, tells.output, fun f failed => .inl (tells.faults f failed)⟩

theorem Ends.bind {α β : Type} {files : System} {r : Record} {s : Session α}
    {next : α → Session β} (first : Ends files r (s.after r))
    (later : ∀ a r', Ends r'.files r' ((next a).after r')) :
    Ends files r ((s >>= next).after r) := by
  cases result : s.after r with
  | mk outcome r' =>
    rw [result] at first
    cases outcome with
    | error f =>
      rw [Session.after_bind_error result]
      refine ⟨first.files, first.output, fun g same => ?_⟩
      cases same
      exact first.late f rfl
    | ok a =>
      have rest := later a r'
      rw [Session.after_bind_ok result]
      exact ⟨rest.files.trans first.files, rest.output.trans first.output, rest.late⟩

theorem writeFiles_late (s : System) (root : Path) (files : List File) (f : Failure)
    (failed : (writeFiles s root files).2.2 = some f) : IsLate f := by
  induction files generalizing s with
  | nil => cases failed
  | cons file files ih =>
    rw [writeFiles] at failed
    split at failed
    · exact ih _ failed
    · rename_i e _
      cases failed
      cases e with
      | unnameable => exact .inl ⟨_, rfl⟩
      | refused cause => exact .inr ⟨_, _, rfl⟩

/-- A text shows a file: the path of the file below the command, and its content up to the line
feeds at its end. -/
def Shows (command : String) (file : File) (text : String) : Prop :=
  ∃ body count, file.content.toList = body ++ List.replicate count '\n' ∧
    body.getLast? ≠ some '\n' ∧
    text = "# --- " ++ command ++ "/" ++ file.path ++ " ---\n" ++ String.ofList body ++ "\n"

theorem withoutFinalBreaks_split (s : String) : ∃ count,
    s.toList = (Manner.withoutFinalBreaks s).toList ++ List.replicate count '\n' ∧
      (Manner.withoutFinalBreaks s).toList.getLast? ≠ some '\n' := by
  have split := List.takeWhile_append_dropWhile (p := (· == '\n')) (l := s.toList.reverse)
  have breaks : s.toList.reverse.takeWhile (· == '\n')
      = List.replicate (s.toList.reverse.takeWhile (· == '\n')).length '\n' := by
    refine List.eq_replicate_iff.mpr ⟨rfl, fun c member => ?_⟩
    exact beq_iff_eq.mp (List.mem_takeWhile_imp (p := (· == '\n')) member)
  refine ⟨(s.toList.reverse.takeWhile (· == '\n')).length, ?_, ?_⟩
  · have parts := congrArg List.reverse split
    rw [List.reverse_append, List.reverse_reverse, breaks, List.reverse_replicate] at parts
    rw [Manner.withoutFinalBreaks, String.toList_ofList]
    exact parts.symm
  · intro last
    have first := List.head?_dropWhile_not (· == '\n') s.toList.reverse
    rw [Manner.withoutFinalBreaks, String.toList_ofList, List.getLast?_reverse] at last
    rw [last] at first
    exact absurd first (by decide)

theorem shows_file (command : String) (file : File) :
    Shows command file (Manner.file (command ++ "/" ++ file.path) file.content) := by
  obtain ⟨count, split, ended⟩ := withoutFinalBreaks_split file.content
  refine ⟨_, count, split, ended, ?_⟩
  have break' : " ---" ++ "\n" = " ---\n" := rfl
  simp only [Manner.file, Manner.data, String.ofList_toList, String.append_assoc, ← break']

namespace Prepared

variable (m : Manner) (p : Prepared) (r : Record)

/-- What a dry run prints: each file at its path below the command. -/
def previewText : String := String.join (p.compiled.files.map fun file =>
  Manner.file (p.compiled.command ++ "/" ++ file.path) file.content)

theorem after_preview : (p.preview m).after r
    = (Session.tell m .info s!"Dry run: {p.compiled.files.length} file(s) not written.").after
      { r with output := r.output ++ p.previewText } := by
  rw [preview, Session.forIn_eq_forM fun file : File =>
    Session.print (Manner.file (p.compiled.command ++ "/" ++ file.path) file.content)]
  exact Session.after_bind_ok (Session.after_print _ _ r)

theorem preview_tells :
    Tells { r with output := r.output ++ p.previewText } ((p.preview m).after r) := by
  rw [after_preview]
  exact Session.OnlyTells.tell m .info _ _

def wroteNotice (written : Path × File) : Notice := .wrote written.1 written.2.content.length

/-- What is left to do once files are written. -/
def afterWriting (paths : List Path) (failure : Option Failure) : Session (List Path) := do
  (paths.zip p.compiled.files).forM fun written => Session.note m (wroteNotice written)
  match failure with
  | some f => throw f
  | none => return paths

theorem after_write {files : System} {paths : List Path} {failure : Option Failure}
    (written : writeFiles r.files p.root p.compiled.files = (files, paths, failure)) :
    (p.write m).after r = (p.afterWriting m paths failure).after { r with files := files } := by
  have current : (get : Session Record).after r = (.ok r, r) := rfl
  have changed : (modify fun r : Record => { r with files := files } : Session PUnit).after r
      = (.ok ⟨⟩, { r with files := files }) := rfl
  rw [write, Session.after_bind_ok current, written]
  dsimp only
  rw [Session.after_bind_ok changed, Session.forIn_eq_forM fun written : Path × File =>
    Session.note m (.wrote written.1 written.2.content.length)]
  rfl

theorem write_ends :
    Ends (writeFiles r.files p.root p.compiled.files).1 r ((p.write m).after r) := by
  cases written : writeFiles r.files p.root p.compiled.files with
  | mk files rest =>
    have stopped := writeFiles_late r.files p.root p.compiled.files
    rw [written] at stopped
    rw [after_write m p r written]
    have told := Session.OnlyTells.forM (fun i => Session.OnlyTells.note m (wroteNotice i))
      (rest.1.zip p.compiled.files) { r with files := files }
    have ends : Ends files { r with files := files }
        ((p.afterWriting m rest.1 rest.2).after { r with files := files }) := by
      refine Ends.bind told.ends fun _ r' => ?_
      cases failure : rest.2 with
      | none => exact (Session.OnlyTells.pure _ r').ends
      | some f =>
        refine ⟨rfl, rfl, fun g same => ?_⟩
        cases same
        exact stopped f failure
    exact ⟨ends.files, ends.output, ends.late⟩

theorem store_ends :
    Ends (writeFiles r.files p.root p.compiled.files).1 r ((p.store m).after r) := by
  refine Ends.bind (p.write_ends m r) fun paths r' => Tells.ends ?_
  rw [Session.forIn_eq_forM fun path : Path => Session.tell m .debug s!"wrote {path.text}"]
  refine Session.OnlyTells.bind (.forM (fun path => .tell m _ _) paths) (fun _ => ?_) r'
  exact .bind (.tell m _ _) fun _ => .tell m _ _

end Prepared

section Build

variable {w : World} {m : Manner} {given : List (Setting × String)}

theorem after_build (w : World) (m : Manner) (given : List (Setting × String)) (r : Record) :
    ∃ told : Record, told.files = r.files ∧ told.output = r.output ∧
      ((∃ fault, ∀ dryRun, (build w m given dryRun).after r = (.error (.fault fault), told)) ∨
        ∀ dryRun, (build w m given dryRun).after r = match (prepare w given).2 with
          | .error f => (.error f, told)
          | .ok p => (if dryRun then p.preview m else p.store m).after told) := by
  have tells := Session.OnlyTells.forM (fun n => Session.OnlyTells.note m n) (prepare w given).1 r
  have steps (dryRun : Bool) : build w m given dryRun = (do
      (prepare w given).1.forM (Session.note m)
      let prepared ← (prepare w given).2
      if dryRun then prepared.preview m else prepared.store m) := by
    rw [build]
    dsimp only
    rw [Session.forIn_eq_forM]
  cases result : Session.after ((prepare w given).1.forM (Session.note m)) r with
  | mk outcome told =>
    rw [result] at tells
    refine ⟨told, tells.files, tells.output, ?_⟩
    cases outcome with
    | error f =>
      obtain ⟨fault, rfl⟩ := tells.faults f rfl
      refine .inl ⟨fault, fun dryRun => ?_⟩
      rw [steps, Session.after_bind_error result]
    | ok _ =>
      refine .inr fun dryRun => ?_
      rw [steps, Session.after_bind_ok result, Session.after_bind]
      cases prepared : (prepare w given).2 with
      | error f => rfl
      | ok p => rfl

end Build

section Conclusion

variable {w : World} {m : Manner} {f : Failure} {r : Record} {status : Nat}

/-- A conclusion with these files, but for the log of a crash. -/
def Conclusion.LeavesButLog (c : Conclusion) (w : World) (files : System) : Prop :=
  c.record.files = files ∨ ∃ f : Failure, f.exitCode? = none ∧
    c.record.files = (files.writeFile (crashLog w) (Text.encode (crashText f))).1

theorem message?_of_exitCode? (known : f.exitCode? = some status) :
    ∃ text, f.message? = some text := by
  cases f with
  | schema | usage | load | config | output => exact ⟨_, rfl⟩
  | parameter | blobNotFound | fault => cases known

theorem conclude_known (known : f.exitCode? = some status) :
    ∃ messages, conclude w m (.error f, r) = .ok ⟨{ r with messages := messages }, status⟩ := by
  obtain ⟨text, worded⟩ := message?_of_exitCode? known
  obtain ⟨told, tells⟩ := message_error m text
  refine ⟨r.messages ++ told, ?_⟩
  rw [conclude, known, worded]
  simp only [Record.withError, tells]
  rfl

theorem crash_leaves {c : Conclusion} (crashed : crash w m r f = .ok c) :
    c.record.files = (r.files.writeFile (crashLog w) (Text.encode (crashText f))).1 := by
  cases logged : r.files.writeFile (crashLog w) (Text.encode (crashText f)) with
  | mk files answer =>
    unfold crash at crashed
    simp only [logged] at crashed
    cases answer with
    | error e => cases crashed
    | ok _ =>
      obtain ⟨told, tells, made⟩ := Outcome.bind_eq_ok.mp crashed
      obtain ⟨text, -, same⟩ := Outcome.bind_eq_ok.mp tells
      cases made
      cases same
      rfl

theorem conclude_ok {result : Outcome Unit × Record} (succeeds : result.1 = .ok ()) :
    conclude w m result = .ok ⟨result.2, 0⟩ := by
  cases result
  cases succeeds
  rfl

theorem conclude_leaves {result : Outcome Unit × Record} {c : Conclusion}
    (concluded : conclude w m result = .ok c) : c.LeavesButLog w result.2.files := by
  obtain ⟨outcome, r⟩ := result
  cases outcome with
  | ok _ =>
    cases concluded
    exact .inl rfl
  | error f =>
    cases known : f.exitCode? with
    | some status =>
      obtain ⟨messages, also⟩ := conclude_known (w := w) (m := m) (r := r) known
      cases concluded.symm.trans also
      exact .inl rfl
    | none =>
      rw [conclude, known] at concluded
      exact .inr ⟨f, known, crash_leaves concluded⟩

end Conclusion

section Run

variable {w : World} {line : List String} {a : Arguments} {given : List (Setting × String)}
variable {dryRun : Bool}

theorem run_build (asked : requestOf line = .ok (a, .build given dryRun)) :
    run w line = conclude w (mannerOf w a)
      ((build w (mannerOf w a) given dryRun).execute w.files) := by
  rw [run, asked]
  exact bind_pure _

theorem mannerOf_eq {b : Arguments} (same : b.given = a.given) : mannerOf w b = mannerOf w a := by
  cases a
  cases b
  cases same
  rfl

theorem build_refused {f : Failure} {status : Nat}
    (asked : requestOf line = .ok (a, .build given dryRun))
    (failed : ((build w (mannerOf w a) given dryRun).execute w.files).1 = .error f)
    (known : f.exitCode? = some status) (early : ∀ path reason, f ≠ .output path reason) :
    ∃ c, run w line = .ok c ∧ c.record.files = w.files ∧ c.record.output = "" ∧
      c.status = status := by
  have notLate : ¬IsLate f := by
    rintro (⟨fault, rfl⟩ | ⟨path, reason, rfl⟩)
    · cases known
    · exact early path reason rfl
  obtain ⟨told, files, output, ⟨fault, stops⟩ | goes⟩ :=
    after_build w (mannerOf w a) given (.ofFiles w.files)
  · rw [Session.execute_eq, stops dryRun] at failed
    cases failed
    cases known
  · rw [run_build asked, Session.execute_eq, goes dryRun]
    rw [Session.execute_eq, goes dryRun] at failed
    cases prepared : (prepare w given).2 with
    | error g =>
      rw [prepared] at failed
      cases failed
      obtain ⟨messages, concluded⟩ := conclude_known (w := w) (m := mannerOf w a) (r := told) known
      exact ⟨_, concluded, files, output, rfl⟩
    | ok p =>
      -- once there is a package, what goes wrong is a fault or the writing
      rw [prepared] at failed
      cases dryRun with
      | true => exact absurd ((p.preview_tells _ told).ends.late f failed) notLate
      | false => exact absurd ((p.store_ends _ told).late f failed) notLate

theorem dryRun_files (w : World) (m : Manner) (given : List (Setting × String)) :
    ((build w m given true).execute w.files).2.files = w.files := by
  obtain ⟨told, files, -, ⟨fault, stops⟩ | goes⟩ := after_build w m given (.ofFiles w.files)
  · rw [Session.execute_eq, stops true]
    exact files
  · rw [Session.execute_eq, goes true]
    cases (prepare w given).2 with
    | error g => exact files
    | ok p => exact (p.preview_tells m told).files.trans files

/-- A dry run that succeeds has prepared a package and printed it; without it, the same build goes
on to store the package. -/
theorem dryRun_previews {w : World} {m : Manner} {given : List (Setting × String)}
    (succeeds : ((build w m given true).execute w.files).1 = .ok ()) :
    ∃ p told, (prepare w given).2 = .ok p ∧ told.files = w.files ∧ told.output = "" ∧
      ((build w m given true).execute w.files).2.output = p.previewText ∧
      (build w m given false).execute w.files = (p.store m).after told := by
  obtain ⟨told, files, output, ⟨fault, stops⟩ | goes⟩ := after_build w m given (.ofFiles w.files)
  · rw [Session.execute_eq, stops true] at succeeds
    cases succeeds
  · rw [Session.execute_eq, goes true] at succeeds
    cases prepared : (prepare w given).2 with
    | error g =>
      rw [prepared] at succeeds
      cases succeeds
    | ok p =>
      refine ⟨p, told, rfl, files, output, ?_, ?_⟩
      · rw [Session.execute_eq, goes true, prepared]
        refine (p.preview_tells m told).output.trans ?_
        have silent : told.output = "" := output
        simp [silent]
      · rw [Session.execute_eq, goes false, prepared]
        rfl

/-- A build that is refused changes no file and prints nothing; its status is that of what is wrong.
A dry run changes no file, the log of a crash apart. What a dry run that succeeds prints shows, in
order, the files of the package that the same build without it hands to the writing; the same build
without it is asked for by the command line with some of its arguments left out. -/
theorem build_allOrNothing (asked : requestOf line = .ok (a, .build given dryRun)) :
    (∀ f status, ((build w (mannerOf w a) given dryRun).execute w.files).1 = .error f →
      f.exitCode? = some status → (∀ path reason, f ≠ .output path reason) →
      ∃ c, run w line = .ok c ∧ c.record.files = w.files ∧ c.record.output = "" ∧
        c.status = status) ∧
    (dryRun = true → ((build w (mannerOf w a) given dryRun).execute w.files).2.files = w.files ∧
      ∀ c, run w line = .ok c → c.LeavesButLog w w.files) ∧
    (dryRun = true → ∃ other b, other.Sublist line ∧
      requestOf other = .ok (b, .build given false) ∧ b.given = a.given) ∧
    (dryRun = true → ((build w (mannerOf w a) given dryRun).execute w.files).1 = .ok () →
      ∃ p c texts, (prepare w given).2 = .ok p ∧ run w line = .ok c ∧ c.status = 0 ∧
        c.record.files = w.files ∧ List.Forall₂ (Shows p.compiled.command) p.compiled.files texts ∧
        c.record.output = String.join texts ∧
        ∀ other b, requestOf other = .ok (b, .build given false) → b.given = a.given →
          (∃ told : Record, told.files = w.files ∧ told.output = "" ∧
            (build w (mannerOf w b) given false).execute w.files
              = (p.store (mannerOf w b)).after told) ∧
          ∀ c', run w other = .ok c' →
            c'.LeavesButLog w (writeFiles w.files p.root p.compiled.files).1) := by
  refine ⟨?refused, ?unchanged, ?without, ?previewed⟩
  case refused => exact fun f status failed known early => build_refused asked failed known early
  case unchanged =>
    rintro rfl
    have kept := dryRun_files w (mannerOf w a) given
    refine ⟨kept, fun c ran => ?_⟩
    rw [run_build asked] at ran
    have leaves := conclude_leaves ran
    rwa [kept] at leaves
  case without =>
    rintro rfl
    exact requestOf_withoutDryRun asked
  case previewed =>
    rintro rfl succeeds
    obtain ⟨p, told, prepared, files, output, printed, stores⟩ := dryRun_previews succeeds
    have shown : List.Forall₂ (Shows p.compiled.command) p.compiled.files
        (p.compiled.files.map fun file =>
          Manner.file (p.compiled.command ++ "/" ++ file.path) file.content) := by
      rw [List.forall₂_map_right_iff, List.forall₂_same]
      exact fun file _ => shows_file p.compiled.command file
    refine ⟨p, _, _, prepared, (run_build asked).trans (conclude_ok succeeds), rfl,
      dryRun_files w (mannerOf w a) given, shown, printed, ?_⟩
    intro other b askedOther same
    rw [mannerOf_eq same]
    refine ⟨⟨told, files, output, stores⟩, fun c' ran => ?_⟩
    rw [run_build askedOther, mannerOf_eq same] at ran
    have leaves := conclude_leaves ran
    rwa [stores, (p.store_ends _ told).files, files] at leaves

private def workshop : World where
  files := ⟨.directory [
    ("m.json", .file (Text.encode
      "\x7b\"smithy\":\"2.0\",\"shapes\":\x7b\"a#S\":\x7b\"type\":\"service\"\x7d\x7d\x7d")),
    ("b.json", .file (Text.encode
      "\x7b\"plugins\":\x7b\"p\":\x7b\"module\":\"m\",\"moduleVersion\":\"1\"\x7d\x7d\x7d"))], []⟩
  environment := []
  input := ""
  fetch address := .failure address
  platform := "Linux"
  time := "0"

private def workshopLine : List String := ["build", "-m", "m.json", "-b", "b.json", "--plugin", "p"]

private def workshopSettings : List (Setting × String) :=
  [(.model, "m.json"), (.buildConfig, "b.json"), (.plugin, "p")]

private theorem exists_ok {α : Type} {o : Outcome α} (succeeds : o.toOption.isSome = true) :
    ∃ a, o = .ok a := by
  cases o with
  | error f => cases succeeds
  | ok a => exact ⟨a, rfl⟩

/-- A build without inputs is refused; a dry run of one with inputs prints the files of the package
that the build without it stores. -/
theorem build_allOrNothing_workshop :
    (∃ c, run workshop ["build"] = .ok c ∧ c.record.files = workshop.files ∧
      c.record.output = "" ∧ c.status = 2) ∧
    ∃ (p : Prepared) (c : Conclusion) (texts : List String) (m : Manner) (told : Record),
      run workshop (workshopLine ++ ["--dry-run"]) = .ok c ∧ c.status = 0 ∧
      c.record.files = workshop.files ∧
      List.Forall₂ (Shows p.compiled.command) p.compiled.files texts ∧
      c.record.output = String.join texts ∧ told.files = workshop.files ∧
      (build workshop m workshopSettings false).execute workshop.files
        = (p.store m).after told := by
  have empty : requestOf ["build"] = .ok (⟨[], ["build"]⟩, .build [] false) := rfl
  have dry : requestOf (workshopLine ++ ["--dry-run"])
      = .ok (⟨[], workshopLine ++ ["--dry-run"]⟩, .build workshopSettings true) := rfl
  have plain : requestOf workshopLine
      = .ok (⟨[], workshopLine⟩, .build workshopSettings false) := rfl
  have lacking : ((build workshop (mannerOf workshop ⟨[], ["build"]⟩) [] false).execute
      workshop.files).1 = .error (.usage (.missingInputs ["--model", "--build-config"])) := rfl
  obtain ⟨refused, -⟩ := build_allOrNothing (w := workshop) empty
  obtain ⟨-, -, -, previewed⟩ := build_allOrNothing (w := workshop) dry
  obtain ⟨_, succeeds⟩ := exists_ok (o := ((build workshop
    (mannerOf workshop ⟨[], workshopLine ++ ["--dry-run"]⟩) workshopSettings true).execute
      workshop.files).1) (by decide +kernel)
  obtain ⟨p, c, texts, -, ran, status, files, shown, printed, others⟩ := previewed rfl succeeds
  obtain ⟨⟨told, same, -, stores⟩, -⟩ := others workshopLine _ plain rfl
  exact ⟨refused _ 2 lacking rfl (by simp), p, c, texts, _, told, ran, status, files, shown,
    printed, same, stores⟩

end Run

end ServiceCli.CommandLine
