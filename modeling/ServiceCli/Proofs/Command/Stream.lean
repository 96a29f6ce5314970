import ServiceCli.Proofs.Command.Plan
import ServiceCli.Proofs.Conversion.Opened
import ServiceCli.Proofs.Service.Undocumented
import ServiceCli.Proofs.Shape.Unfolding

set_option autoImplicit false
set_option relaxedAutoImplicit false

namespace ServiceCli.Command

open ServiceCli.Conversion ServiceCli.Data ServiceCli.Files ServiceCli.Parameters ServiceCli.Script
open ServiceCli.Service ServiceCli.Shape

/-- The members of an input that is read from a JSON model have different names in each
structure. -/
theorem namesDiffer_inputFields {graph : Graph} (json : (Value.map graph).IsJson) {ref : Ref}
    {op : Operation} (read : extractOperation graph ref = .ok op) : NamesDiffer op.inputFields := by
  obtain ⟨shape, traits, extracts⟩ := extractOperation_eq_ok.mp read
  obtain ⟨target, -, taken⟩ := extracts.taken
  rw [Operation.inputFields]
  cases target with
  | none =>
    rw [← Except.ok.inj taken]
    trivial
  | some r =>
    obtain ⟨members, resolved, made⟩ := Outcome.bind_eq_ok.mp taken
    rw [← Outcome.pure_eq_ok.mp made]
    have unfolds := unfolds_of_resolveWith (resolveStructure_eq_ok.mp resolved).2
    exact unfolds.namesDiffer json

/-- A command closes streams just when its conversions hold a call that opens one; otherwise they
open none, whatever they run on. Where the names of the input differ, as they do in every input
that is read from JSON, a run without failure leaves parameters that hold each opened stream once,
all of them open; closing leaves none open, changes nothing else, and changes nothing a second
time. -/
theorem planOf_streams {op : Operation} {cli : String} {needsToken : Bool} {plan : Plan}
    (planned : planOf op cli needsToken = .ok plan) :
    (plan.closesStreams = true ↔ anyMayOpen (commandsOf plan.conversions) = true)
      ∧ (plan.closesStreams = false →
        ∀ files m, openedAll files (script plan.conversions) m = [])
      ∧ (∀ graph ref, (Value.map graph).IsJson → extractOperation graph ref = .ok op →
        NamesDiffer op.inputFields)
      ∧ (NamesDiffer op.inputFields → ∀ files entries m, (Value.map entries).IsJson →
        m treeName = some (.map entries) →
        (runAll files (script plan.conversions) m).failure = none →
        ∃ handled, (runAll files (script plan.conversions) m).memory treeName = some (.map handled)
          ∧ (streamsIn (.map handled)).Perm (openedAll files (script plan.conversions) m)
          ∧ (∀ s ∈ streamsIn (.map handled), IsOpen s)
          ∧ (∀ s ∈ streamsIn (closeStreams (.map handled)), IsClosed s)
          ∧ streamsIn (closeStreams (.map handled))
            = (streamsIn (.map handled)).map closeStreams
          ∧ reopen (closeStreams (.map handled)) = .map handled
          ∧ closeStreams (closeStreams (.map handled)) = closeStreams (.map handled)) := by
  obtain ⟨-, rfl⟩ := planOf_eq_ok.mp planned
  have calls := anyMayOpen_ofFields op.inputFields (.ofRoot treeName)
  refine ⟨by rw [show parameterRoot = .ofRoot treeName from rfl, calls], ?quiet, ?names, ?closing⟩
  case quiet =>
    intro plain files m
    have none := anyStream_restrictFields (P := IsLegible) op.inputFields plain
    rw [show parameterRoot = .ofRoot treeName from rfl, script_ofFields]
    exact openedAll_of_quiet _ ((anyMayOpen_ofFields _ _).trans none) m
  case names =>
    intro graph ref json read
    exact namesDiffer_inputFields json read
  case closing =>
    intro differ files entries m json given ok
    have run := run_script files differ json given
    have opened := opened_script files differ json given (run.2.symm.trans ok)
    have opens : ∀ s ∈ streamsIn (.map (convertFields files []
        (restrictFields IsLegible op.inputFields) entries).1), IsOpen s :=
      fun s member => isOpen_of_openedAll _ m (opened.symm.subset member)
    exact ⟨_, run.1, opened.symm, opens, isClosed_closeStreams _, streamsIn_closeStreams _,
      reopen_closeStreams _ opens, closeStreams_closeStreams _⟩

private def upload : Operation := ⟨"Upload", "/u", "POST", "", [], some ⟨"UploadInput", [
  ⟨"parts", .list (.list (.blob true)), true, "", false⟩,
  ⟨"icon", .blob false, false, "", false⟩,
  ⟨"extra", .map ⟨"key", .primitive "string", false, "", false⟩
    ⟨"value", .structure [⟨"logo", .blob true, false, "", false⟩,
      ⟨"note", .document, false, "", false⟩], false, "", false⟩, false, "", false⟩]⟩, none, false⟩

private def uploadParameters : Entries := [
  (.str "extra", .map [(.str "x", .map [(.str "note", .list [.int 1]), (.str "logo", .str "b")])]),
  (.str "icon", .str "a"),
  (.str "parts", .list [.list [.str "a", .str "b"], .null, .list [.str "a"]])]

private def uploadFiles : System := ⟨.directory [("a", .file [104, 105]), ("b", .file [])], []⟩

/-- Streams in lists of lists and in the structures of a map are found and closed. -/
theorem planOf_streams_upload :
    ∃ plan, planOf upload "demo" false = .ok plan ∧ plan.closesStreams = true
      ∧ NamesDiffer upload.inputFields ∧ (Value.map uploadParameters).IsJson
      ∧ ∃ handled,
        (runAll uploadFiles (script plan.conversions)
            (Memory.set (fun _ => none) treeName (.map uploadParameters))).memory treeName
          = some (.map handled)
        ∧ (openedAll uploadFiles (script plan.conversions)
            (Memory.set (fun _ => none) treeName (.map uploadParameters))).length = 4
        ∧ closeStreams (.map handled) = .map [
          (.str "extra", .map [(.str "x", .map [(.str "note", .str "[1]"),
            (.str "logo", .stream "b" 0 true)])]),
          (.str "icon", .bytes [104, 105]),
          (.str "parts", .list [.list [.stream "a" 0 true, .stream "b" 0 true], .null,
            .list [.stream "a" 0 true]])] := by
  have differ : NamesDiffer upload.inputFields := by
    simp [upload, Operation.inputFields, NamesDiffer, TypeTree.NamesDiffer]
  have json : (Value.map uploadParameters).IsJson := by
    simp [uploadParameters, Value.IsJson, EntriesJson, ItemsJson, Scalar.isJson]
  have given := Memory.set_same (fun _ => none) treeName (.map uploadParameters)
  have run := run_script uploadFiles differ json given
  have legible : NamesHave IsLegible upload.inputFields := by
    simp only [upload, Operation.inputFields, NamesHave, TypeTree.NamesHave, and_true, true_and]
    refine ⟨?_, ?_, ?_, ?_, ?_⟩ <;> exact (isWritable_of_all (by decide)).legible
  have converted : convertFields uploadFiles [] upload.inputFields uploadParameters = ([
        (.str "extra", .map [(.str "x", .map [(.str "note", .str "[1]"),
          (.str "logo", .stream "b" 0 false)])]),
        (.str "icon", .bytes [104, 105]),
        (.str "parts", .list [.list [.stream "a" 0 false, .stream "b" 0 false], .null,
          .list [.stream "a" 0 false]])], none) := by
    rfl
  rw [restrictFields_of_namesHave _ legible, converted] at run
  refine ⟨_, rfl, rfl, differ, json, _, run.1, ?_, rfl⟩
  have planned : planOf upload "demo" false = .ok _ := rfl
  have streams := (planOf_streams planned).2.2.2
  obtain ⟨handled, left, once, -⟩ := streams differ _ _ _ json given run.2
  obtain rfl := Value.map.inj (Option.some.inj (left.symm.trans run.1))
  exact once.length_eq.symm

end ServiceCli.Command
