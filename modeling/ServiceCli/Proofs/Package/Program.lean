import ServiceCli.Package.Compile
import ServiceCli.Proofs.Command.Plan
import ServiceCli.Proofs.Outcome
import ServiceCli.Proofs.Source.Skeleton

set_option autoImplicit false
set_option relaxedAutoImplicit false

namespace ServiceCli.Package

open ServiceCli.Command ServiceCli.Service ServiceCli.Source

/-- What a package says about itself when only its command is known. -/
def Meta.ofCommand (command : String) : Meta := ⟨command, "", "", "", "", "", "", "", "", ""⟩

def functionNamesOf (taken : List String) : List String → List String
  | [] => []
  | name :: rest =>
    let own := freeName taken (identifier name ++ "_command")
    own :: functionNamesOf (taken ++ [own]) rest

/-- The name of the function for an operation that comes after operations with these names. -/
def functionNameAfter (before : List String) (name : String) : String :=
  freeName (functionNamesOf [] before) (identifier name ++ "_command")

def commandText (command : String) (before : List String) (op : Operation) (needsToken : Bool) :
    Outcome String := do
  let plan ← planOf op command needsToken
  return textOf (functionLines (.ofCommand command) plan (functionNameAfter before op.name))

/-- The lines of a program up to the entries of its list of commands. -/
def frontLines (m : Meta) : List Line :=
  [[.quoted m.moduleDocumentation]] ++ importLines m
    ++ [[.code "DEFAULT_ENDPOINT = ", .quoted m.endpoint],
      [.code "ENDPOINT_ENV = ", .quoted m.endpointVariable], codeLine "", codeLine "COMMANDS = ("]

/-- The entry of a command in the list of commands. -/
def entryLine (name : String) : Line := [.code "    ", .quoted name, .code ","]

/-- The lines of a program from the end of its list of commands to its commands. -/
def backLines (m : Meta) : List Line :=
  codeLines [")", ""] ++ applicationLines m ++ versionLines m ++ clientLines m

/-- The texts of a package around its commands and their entries. -/
structure Frame where
  folder : String
  manifest : String
  init : String
  main : String
  front : String
  back : String
  footer : String

/-- The frame of a package that says this about itself. -/
def frameOf (m : Meta) : Frame where
  folder := "src/" ++ m.package
  manifest := manifestText m
  init := textOf (initLines m)
  main := textOf (mainLines m)
  front := textOf (frontLines m)
  back := textOf (backLines m)
  footer := textOf (footerLines m)

namespace Frame

/-- The text before the commands, with an entry for each name. -/
def header (f : Frame) (names : List String) : String :=
  f.front ++ textOf (names.map entryLine) ++ f.back

def files (f : Frame) (names commands : List String) : List File := [
  ⟨"pyproject.toml", f.manifest⟩, ⟨f.folder ++ "/__init__.py", f.init⟩,
  ⟨f.folder ++ "/__main__.py", f.main⟩,
  ⟨f.folder ++ "/cli.py", f.header names ++ String.join commands ++ f.footer⟩]

end Frame

section Parts

variable (m : Meta) (plans others : List Plan) (names taken : List String)

theorem headerLines_eq : headerLines m names
    = frontLines m ++ names.map entryLine ++ backLines m := by
  simp only [headerLines, commandLines, frontLines, backLines, List.append_assoc, List.cons_append,
    List.nil_append]
  rfl

theorem filesOf_eq : filesOf m plans = (frameOf m).files (plans.map (·.operation.name))
    ((commandSources m plans).map textOf) := by
  have program : textOf (programLines m plans) = (frameOf m).header (plans.map (·.operation.name))
      ++ String.join ((commandSources m plans).map textOf) ++ (frameOf m).footer := by
    rw [programLines, headerLines_eq]
    simp only [textOf_append, textOf_flatten]
    rfl
  rw [filesOf, program]
  rfl

theorem functionLines_ofCommand (plan : Plan) (name : String) :
    functionLines (.ofCommand m.command) plan name = functionLines m plan name := rfl

theorem functionNamesFrom_eq :
    functionNamesFrom taken plans = functionNamesOf taken (plans.map (·.operation.name)) := by
  induction plans generalizing taken with
  | nil => rfl
  | cons plan plans ih =>
    rw [functionNamesFrom, ih, List.map_cons, functionNamesOf]
    rfl

theorem functionNamesFrom_append : functionNamesFrom taken (plans ++ others)
    = functionNamesFrom taken plans
      ++ functionNamesFrom (taken ++ functionNamesFrom taken plans) others := by
  induction plans generalizing taken with
  | nil => simp [functionNamesFrom]
  | cons plan plans ih =>
    rw [List.cons_append, functionNamesFrom, ih, functionNamesFrom, List.cons_append,
      List.append_assoc, List.singleton_append]

theorem functionNamesFrom_length : (functionNamesFrom taken plans).length = plans.length := by
  induction plans generalizing taken with
  | nil => rfl
  | cons plan plans ih => rw [functionNamesFrom, List.length_cons, ih, List.length_cons]

theorem commandSources_append : commandSources m (plans ++ others) = commandSources m plans
    ++ List.zipWith (functionLines m) others (functionNamesFrom (functionNames plans) others) := by
  have sameLength : plans.length = (functionNames plans).length :=
    (functionNamesFrom_length plans []).symm
  rw [commandSources, functionNames, functionNamesFrom_append, List.nil_append]
  exact List.zipWith_append sameLength

theorem commandSources_length : (commandSources m plans).length = plans.length := by
  rw [commandSources, List.length_zipWith, functionNames, functionNamesFrom_length, Nat.min_self]

end Parts

section Plans

variable {command : String} {policy : AuthPolicy} {ops rest : List Operation} {plans : List Plan}

theorem plansOf_append : plansOf command policy (ops ++ rest) = .ok plans ↔
    ∃ first later, plansOf command policy ops = .ok first ∧ plansOf command policy rest = .ok later
      ∧ plans = first ++ later := by
  induction ops generalizing plans with
  | nil => simp [plansOf]
  | cons op ops ih =>
    simp only [List.cons_append, plansOf, Outcome.bind_eq_ok, Outcome.pure_eq_ok, ih]
    constructor
    · rintro ⟨plan, own, _, ⟨first, later, planned, left, rfl⟩, rfl⟩
      exact ⟨plan :: first, later, ⟨plan, own, first, planned, rfl⟩, left, rfl⟩
    · rintro ⟨_, later, ⟨plan, own, first, planned, rfl⟩, left, rfl⟩
      exact ⟨plan, own, _, ⟨first, later, planned, left, rfl⟩, rfl⟩

theorem plansOf_operations (planned : plansOf command policy ops = .ok plans) :
    plans.map Plan.operation = ops := by
  induction ops generalizing plans with
  | nil =>
    cases Except.ok.inj planned
    rfl
  | cons op ops ih =>
    obtain ⟨plan, own, planned⟩ := Outcome.bind_eq_ok.mp planned
    obtain ⟨others, left, planned⟩ := Outcome.bind_eq_ok.mp planned
    cases Outcome.pure_eq_ok.mp planned
    obtain ⟨-, rfl⟩ := planOf_eq_ok.mp own
    rw [List.map_cons, ih left]

theorem plansOf_names (planned : plansOf command policy ops = .ok plans) :
    plans.map (·.operation.name) = ops.map Operation.name := by
  rw [← plansOf_operations planned, List.map_map]
  rfl

theorem plansOf_length (planned : plansOf command policy ops = .ok plans) :
    plans.length = ops.length := by
  rw [← plansOf_operations planned, List.length_map]

theorem commandSources_commandText {m : Meta} {before after : List Operation} {op : Operation}
    (planned : plansOf m.command policy (before ++ op :: after) = .ok plans) :
    ∃ text, ((commandSources m plans).map textOf)[before.length]? = some text
      ∧ commandText m.command (before.map Operation.name) op (policy op) = .ok text := by
  obtain ⟨first, _, plannedFirst, plannedLater, rfl⟩ := plansOf_append.mp planned
  obtain ⟨plan, own, plannedLater⟩ := Outcome.bind_eq_ok.mp plannedLater
  obtain ⟨others, -, plannedLater⟩ := Outcome.bind_eq_ok.mp plannedLater
  cases Outcome.pure_eq_ok.mp plannedLater
  have place : before.length = (commandSources m first).length := by
    rw [commandSources_length, plansOf_length plannedFirst]
  have name : freeName (functionNames first) (methodName plan.operation ++ "_command")
      = functionNameAfter (before.map Operation.name) op.name := by
    obtain ⟨-, rfl⟩ := planOf_eq_ok.mp own
    rw [functionNames, functionNamesFrom_eq, plansOf_names plannedFirst]
    rfl
  refine ⟨textOf (functionLines m plan (functionNameAfter (before.map Operation.name) op.name)),
    ?found, ?made⟩
  case found =>
    -- the plans before this one take as many places as there are operations before it
    rw [commandSources_append, functionNamesFrom, List.zipWith_cons_cons, name, place,
      List.getElem?_map, List.getElem?_append_right (Nat.le_refl _), Nat.sub_self]
    rfl
  case made =>
    rw [commandText, own, Outcome.ok_bind, functionLines_ofCommand]
    rfl

end Plans

end ServiceCli.Package
