import ServiceCli.Package.Function
import ServiceCli.Parameters.Call
import ServiceCli.Parameters.Required
import ServiceCli.Proofs.Command.Plan
import ServiceCli.Proofs.Command.Required
import ServiceCli.Proofs.Conversion.Script
import ServiceCli.Proofs.Outcome
import ServiceCli.Proofs.Parameters.Overlay
import ServiceCli.Proofs.Parameters.PathText

/-!
What the body of a generated function does with the parameters, step by step: the flags are laid
over the file, the values are converted and checked, the client takes the token, and what is left
becomes the request.
-/

set_option autoImplicit false
set_option relaxedAutoImplicit false

namespace ServiceCli.Package

open ServiceCli.Command ServiceCli.Conversion ServiceCli.Data ServiceCli.Parameters

/-- What a call of a generated function meets: the parameters of its file, the values of its flags,
what converting statements make of parameters, and how the client builds its input. -/
structure Call where
  file : Entries
  given : Flag → Value
  convert : List Statement → Entries → Outcome Entries
  form : InputForm

/-- How far a call has come: its parameters, the token that the client took, and the request. -/
structure Progress where
  parameters : Entries
  token : Option Value
  request : Option BuiltInput

/-- A call that has done nothing yet. -/
def Progress.start : Progress := ⟨[], none, none⟩

/-- The token is taken out of the parameters; where there is none the call fails. -/
def takeToken (p : Progress) : Outcome Progress :=
  match p.parameters.get? tokenName with
  | some v => .ok { p with parameters := p.parameters.erase tokenName, token := some v }
  | none => faulty .absentKey

/-- What one step does. Calling the client and printing leave what the request was built from. -/
def Step.run (c : Call) (p : Progress) : Step → Outcome Progress
  | .merge flags => .ok { p with parameters := Parameters.merge c.file (flagValues flags c.given) }
  | .convert statements => do
    let converted ← c.convert statements p.parameters
    return { p with parameters := converted }
  | .validate required => do
    Parameters.validate (Value.map p.parameters) required
    return p
  | .makeClient true => takeToken p
  | .makeClient false => .ok p
  | .buildInput _ => do
    let request ← Parameters.buildInput c.form p.parameters
    return { p with request := some request }
  | .callClient _ => .ok p
  | .sendInput _ _ => .ok p
  | .printResult => .ok p

/-- What steps do, one after the other, up to the first failure. -/
def run (c : Call) (steps : List Step) (p : Progress) : Outcome Progress :=
  steps.foldlM (Step.run c) p

/-- The parameters that a call checks: its flags laid over its file, then converted. -/
def Call.parameters (c : Call) (plan : Plan) : Outcome Entries :=
  let laid := Parameters.merge c.file (flagValues plan.flags c.given)
  if (linesOf plan.conversions).isEmpty then .ok laid else c.convert plan.conversions laid

/-- What is left to do when the client is made: the request of an operation with an input. -/
def Call.finish (c : Call) (plan : Plan) (p : Progress) : Outcome Progress :=
  match plan.operation.input with
  | some _ => do
    let request ← buildInput c.form p.parameters
    return { p with request := some request }
  | none => .ok p

variable (c : Call) (plan : Plan)

theorem run_append (first second : List Step) (p : Progress) :
    run c (first ++ second) p = run c first p >>= run c second :=
  List.foldlM_append

theorem run_cons (s : Step) (steps : List Step) (p : Progress) :
    run c (s :: steps) p = s.run c p >>= run c steps :=
  List.foldlM_cons

theorem run_front : run c (.merge plan.flags :: convertStep plan.conversions) .start
      = c.parameters plan >>= fun parameters => .ok ⟨parameters, none, none⟩ := by
  rw [convertStep, Call.parameters, run_cons]
  split
  · rfl
  · cases converted : c.convert plan.conversions
        (Parameters.merge c.file (flagValues plan.flags c.given)) with
    | error e =>
      rw [Step.run, Outcome.ok_bind, run_cons, Step.run, Progress.start, converted]
      rfl
    | ok parameters =>
      rw [Step.run, Outcome.ok_bind, run_cons, Step.run, Progress.start, converted]
      rfl

theorem run_back (p : Progress) : run c (callSteps plan ++ [.printResult]) p = c.finish plan p := by
  rw [callSteps, Call.finish]
  cases plan.operation.input with
  | none => rfl
  | some payload =>
    cases built : buildInput c.form p.parameters with
    | error e =>
      rw [List.cons_append, run_cons, Step.run, built]
      rfl
    | ok request =>
      rw [List.cons_append, run_cons, Step.run, built]
      rfl

/-- The body of a function checks the parameters of the call, makes the client and builds the
request, in this order. -/
theorem run_bodyOf : run c (bodyOf plan) .start = (do
    let parameters ← c.parameters plan
    validate (Value.map parameters) plan.required
    let p ← Step.run c ⟨parameters, none, none⟩ (.makeClient plan.needsToken)
    c.finish plan p) := by
  have parts : bodyOf plan = (.merge plan.flags :: convertStep plan.conversions)
      ++ (.validate plan.required :: .makeClient plan.needsToken
        :: (callSteps plan ++ [.printResult])) := by
    simp [bodyOf]
  rw [parts, run_append, run_front]
  cases c.parameters plan with
  | error e => rfl
  | ok parameters =>
    have back := run_cons c (.makeClient plan.needsToken) (callSteps plan ++ [.printResult])
      ⟨parameters, none, none⟩
    rw [funext (run_back c plan)] at back
    rw [Outcome.ok_bind, Outcome.ok_bind, Outcome.ok_bind, run_cons, Step.run, ← back]
    cases validate (Value.map parameters) plan.required with
    | error e => rfl
    | ok checked => rfl

end ServiceCli.Package

/-! ### The bearer token

The bearer token on its way through a command. Where a token is needed it has the last flag and the
last required path, and between checking the parameters and building the request it is taken out of
them; where none is needed, a member of its name is a member like any other.
-/

namespace ServiceCli.Parameters

open ServiceCli.Data ServiceCli.Path

/-- Parameters that pass a check have a value that is not null under each plain name required. -/
theorem exists_get?_of_validate {entries : Entries} {required : List String} {name : String}
    (plain : IsPlain name) (member : name ∈ required)
    (valid : validate (.map entries) required = .ok ()) :
    ∃ v, entries.get? name = some v ∧ v ≠ .null := by
  have path : parsePath name = [.member name] := parsePath_member plain
  have complete : missing (.map entries) (required.map parsePath) = [] := by
    rw [validate] at valid
    split at valid
    · cases valid
    · split at valid
      · assumption
      · cases valid
  have given : missingAt [] (parsePath name) (.map entries) = [] :=
    List.flatMap_eq_nil_iff.mp complete _ (List.mem_map_of_mem member)
  rw [path, missingAt, missingAt, Value.field] at given
  cases found : entries.get? name with
  | none => exact absurd given (by simp [found])
  | some v =>
    refine ⟨v, rfl, ?_⟩
    rintro rfl
    exact absurd given (by simp [found])

theorem buildInput_members {form : InputForm} {entries : Entries} {built : BuiltInput}
    (told : buildInput form entries = .ok built) : built.members = entries := by
  cases form with
  | fromMapping =>
    cases Except.ok.inj told
    rfl
  | byName =>
    rw [buildInput] at told
    split at told
    · cases Except.ok.inj told
      rfl
    · exact nomatch told

end ServiceCli.Parameters

namespace ServiceCli.Command

open ServiceCli.Shape

theorem flagOf_ne_tokenFlag (parameter : String) (f : Field) : flagOf parameter f ≠ tokenFlag := by
  intro same
  have required : f.required = true := congrArg Flag.required same
  have description : descriptionOf f = tokenFlag.description := congrArg Flag.description same
  rw [descriptionOf, if_pos required] at description
  have last := congrArg (fun s => s.toList.getLast?) description
  simp [tokenFlag] at last

theorem tokenFlag_notMem_flagsFrom (used : List String) (fields : List Field) :
    tokenFlag ∉ flagsFrom used fields := by
  induction fields generalizing used with
  | nil => simp [flagsFrom]
  | cons f fields ih =>
    rw [flagsFrom, List.mem_cons, not_or]
    exact ⟨(flagOf_ne_tokenFlag _ f).symm, ih _⟩

end ServiceCli.Command

namespace ServiceCli.Package

open ServiceCli.Command ServiceCli.Conversion ServiceCli.Data ServiceCli.Files
open ServiceCli.Parameters ServiceCli.Service ServiceCli.Shape ServiceCli.Source

/-- The lines before the check: the flags are laid over the file, and the values are converted. -/
def layingLines (plan : Plan) : List Line :=
  [codeLine "params = rt.merge_options(", codeLine "    rt.load_params_file(params_file),",
    codeLine "    \x7b"]
  ++ plan.flags.map (fun f =>
    [.code "        ", .quoted f.name, .code (": " ++ f.parameter ++ ",")])
  ++ [codeLine "    \x7d,", codeLine ")"]
  ++ if (linesOf plan.conversions).isEmpty then [] else
    codeLine "try:" :: (linesOf plan.conversions).map (fun l => codeLine ("    " ++ l))
    ++ [codeLine "except FileNotFoundError as exc:",
      codeLine "    raise typer.BadParameter(str(exc)) from exc"]

/-- The lines after the client is made: the request is built and sent. -/
def sendingLines (plan : Plan) : List Line :=
  let called := "result = rt.run_client_call(client." ++ methodName plan.operation
  match plan.operation.input with
  | none => [codeLine (called ++ "())"), codeLine "rt.print_result(result)"]
  | some payload =>
    codeLine ("request = rt.build_input(models." ++ payload.shape ++ ", params)") ::
      (if plan.closesStreams then
        [codeLine "try:", codeLine ("    " ++ (called ++ "(request))")), codeLine "finally:",
          codeLine "    rt.close_streams(params)"]
      else [codeLine (called ++ "(request))")])
      ++ [codeLine "rt.print_result(result)"]

def bodyLines (client : String) (plan : Plan) : List Line :=
  layingLines plan
    ++ (.code "rt.validate_required(params, " :: quotedList plan.required ++ [.code ")"])
      :: codeLine client :: sendingLines plan

/-- A command that takes a token. -/
structure TakesToken (plan : Plan) : Prop where
  flag : ∃ front, plan.flags = front ++ [tokenFlag] ∧ ∀ flag ∈ front, flag.name ≠ tokenName
  required : ∃ front, plan.required = front ++ [tokenName]
  body : (bodyOf plan).flatMap Step.lines
    = bodyLines "client = _get_client(params.pop(\"token\"))" plan
  taken : ∀ entries : Entries, validate (.map entries) plan.required = .ok () →
    ∃ v, v ≠ .null ∧
      takeToken ⟨entries, none, none⟩ = .ok ⟨entries.erase tokenName, some v, none⟩
  run : ∀ (c : Call) (entries : Entries), c.parameters plan = .ok entries →
    validate (.map entries) plan.required = .ok () →
    ∃ v, v ≠ .null ∧
      run c (bodyOf plan) .start = c.finish plan ⟨entries.erase tokenName, some v, none⟩
  request : ∀ c progress built, Package.run c (bodyOf plan) .start = .ok progress →
    progress.request = some built → ∀ entry ∈ built.members, entry.1 ≠ .str tokenName

/-- The conversion of a call is that of an input's members whose key literals denote their names;
the others are not found. -/
def Call.Converts (c : Call) (files : System) (fields : List Field) : Prop :=
  ∀ entries, c.convert (ofFields parameterRoot fields) entries =
    match convertFields files [] (restrictFields IsLegible fields) entries with
    | (converted, none) => .ok converted
    | (_, some e) => .error e

/-- A command that takes no token, for an operation with the given input. -/
structure TakesNone (fields : List Field) (plan : Plan) : Prop where
  flags : plan.flags.map Flag.name = fields.map Field.name
  noFlag : tokenFlag ∉ plan.flags
  required : tokenName ∈ plan.required → ∃ f ∈ fields, f.name = tokenName ∧ f.required = true
  body : (bodyOf plan).flatMap Step.lines = bodyLines "client = _get_client()" plan
  request : ∀ c progress built, run c (bodyOf plan) .start = .ok progress →
    progress.request = some built → c.parameters plan = .ok built.members
  kept : ∀ (c : Call) files (entries : Entries), c.Converts files fields →
    c.parameters plan = .ok entries →
    (∀ f ∈ fields, f.name = tokenName → f.type.containsSpecial = false) →
    entries.get? tokenName
      = (Parameters.merge c.file (flagValues plan.flags c.given)).get? tokenName

theorem bodyOf_lines (plan : Plan) : (bodyOf plan).flatMap Step.lines
    = bodyLines (if plan.needsToken then "client = _get_client(params.pop(\"token\"))"
      else "client = _get_client()") plan := by
  have converting : (convertStep plan.conversions).flatMap Step.lines
      = if (linesOf plan.conversions).isEmpty then [] else
        codeLine "try:" :: (linesOf plan.conversions).map (fun l => codeLine ("    " ++ l))
        ++ [codeLine "except FileNotFoundError as exc:",
          codeLine "    raise typer.BadParameter(str(exc)) from exc"] := by
    rw [convertStep]
    split <;> simp [Step.lines]
  have sending : (callSteps plan).flatMap Step.lines ++ Step.printResult.lines
      = sendingLines plan := by
    rw [callSteps, sendingLines]
    cases plan.operation.input <;> simp [Step.lines, String.append_assoc]
  simp only [bodyOf, List.flatMap_append, converting, List.flatMap_cons, List.flatMap_nil,
    List.append_nil, List.append_assoc, sending]
  simp [bodyLines, layingLines, Step.lines]

private theorem finish_request {c : Call} {plan : Plan} {entries : Entries} {token : Option Value}
    {progress : Progress} {built : BuiltInput}
    (told : c.finish plan ⟨entries, token, none⟩ = .ok progress)
    (requested : progress.request = some built) : built.members = entries := by
  rw [Call.finish] at told
  cases input : plan.operation.input with
  | none =>
    rw [input] at told
    cases Except.ok.inj told
    cases requested
  | some payload =>
    rw [input] at told
    obtain ⟨r, made, told⟩ := Outcome.bind_eq_ok.mp told
    cases Outcome.pure_eq_ok.mp told
    cases Option.some.inj requested
    exact buildInput_members made

private theorem run_bodyOf_eq_ok {c : Call} {plan : Plan} {progress : Progress}
    (told : run c (bodyOf plan) .start = .ok progress) :
    ∃ entries p, c.parameters plan = .ok entries ∧
      validate (.map entries) plan.required = .ok () ∧
      Step.run c ⟨entries, none, none⟩ (.makeClient plan.needsToken) = .ok p ∧
      c.finish plan p = .ok progress := by
  rw [run_bodyOf] at told
  obtain ⟨entries, converted, told⟩ := Outcome.bind_eq_ok.mp told
  obtain ⟨_, valid, told⟩ := Outcome.bind_eq_ok.mp told
  obtain ⟨p, made, told⟩ := Outcome.bind_eq_ok.mp told
  exact ⟨entries, p, converted, valid, made, told⟩

variable {op : Operation} {cli : String} {plan : Plan}

theorem takesToken_of_planOf (planned : planOf op cli true = .ok plan) : TakesToken plan := by
  obtain ⟨free, rfl⟩ := planOf_eq_ok.mp planned
  have absent : tokenName ∉ op.inputFields.map Field.name := by
    rw [← hasTokenMember_eq_true]
    simpa using free
  have isLast : tokenName ∈ requiredTexts op.inputFields true :=
    List.mem_append_right _ (by simp)
  have plain : IsPlain tokenName := isPlain_of_all (by decide) (by decide)
  have taken : ∀ entries : Entries,
      validate (.map entries) (requiredTexts op.inputFields true) = .ok () → ∃ v, v ≠ .null ∧
        takeToken ⟨entries, none, none⟩ = .ok ⟨entries.erase tokenName, some v, none⟩ := by
    intro entries valid
    obtain ⟨v, found, filled⟩ := exists_get?_of_validate plain isLast valid
    exact ⟨v, filled, by simp [takeToken, found]⟩
  refine ⟨⟨_, rfl, ?flag⟩, ⟨_, rfl⟩, bodyOf_lines _, taken, ?run, ?request⟩
  case flag =>
    intro flag member named
    have name := List.mem_map_of_mem member (f := Flag.name)
    rw [flagsFrom_names, named] at name
    exact absent name
  case run =>
    intro c entries converted valid
    obtain ⟨v, filled, took⟩ := taken entries valid
    refine ⟨v, filled, ?_⟩
    rw [run_bodyOf, converted, Outcome.ok_bind, valid, Outcome.ok_bind, Step.run, took]
    rfl
  case request =>
    intro c progress built told requested
    obtain ⟨entries, p, -, valid, made, finished⟩ := run_bodyOf_eq_ok told
    obtain ⟨v, -, took⟩ := taken entries valid
    rw [Step.run, took] at made
    cases Except.ok.inj made
    rw [finish_request finished requested]
    exact fun entry member => Entries.ne_of_mem_erase member

theorem takesNone_of_planOf (planned : planOf op cli false = .ok plan)
    (named : ∀ f ∈ op.inputFields, f.name ≠ "") : TakesNone op.inputFields plan := by
  obtain ⟨-, rfl⟩ := planOf_eq_ok.mp planned
  refine ⟨?flags, ?noFlag, ?required, bodyOf_lines _, ?request, ?kept⟩
  case flags =>
    rw [flagsOf_names]
    exact List.append_nil _
  case noFlag =>
    rw [flagsOf, List.mem_append, not_or]
    exact ⟨tokenFlag_notMem_flagsFrom _ _, by simp⟩
  case required =>
    intro member
    have unmarked : ∀ c ∈ tokenName.toList, isMark c = false := by simp [tokenName, isMark]
    refine required_of_unmarked named unmarked ?_
    simpa [requiredTexts] using member
  case request =>
    intro c progress built told requested
    obtain ⟨entries, p, converted, -, made, finished⟩ := run_bodyOf_eq_ok told
    cases Except.ok.inj made
    rw [finish_request finished requested]
    exact converted
  case kept =>
    intro c files entries converts converted plain
    rw [Call.parameters] at converted
    split at converted
    · cases Except.ok.inj converted
      rfl
    · have left : ∀ f ∈ restrictFields IsLegible op.inputFields, f.name = tokenName →
          f.type.containsSpecial = false := by
        intro f member named
        obtain ⟨-, g, among, same, restricted⟩ := exists_of_mem_restrictFields member
        exact restricted ▸ containsSpecial_restrict g.type (plain g among (same.trans named))
      have still := get?_convertFields_of_plain files left []
        (Parameters.merge c.file (flagValues (flagsOf op.inputFields false) c.given))
      rw [converts] at converted
      cases step : convertFields files [] (restrictFields IsLegible op.inputFields)
          (Parameters.merge c.file (flagValues (flagsOf op.inputFields false) c.given)) with
      | mk changed failure =>
        rw [step] at still converted
        cases failure with
        | none =>
          cases Except.ok.inj converted
          exact still
        | some e => cases converted

/-- A plan is refused just when a token is needed and a member of the input has its name. The
command of a plan takes the token where it is needed and leaves the parameters alone where it is
not. -/
theorem planOf_token (op : Operation) (cli : String) (needsToken : Bool)
    (named : ∀ f ∈ op.inputFields, f.name ≠ "") :
    ((∃ e, planOf op cli needsToken = .error e) ↔
      needsToken = true ∧ ∃ f ∈ op.inputFields, f.name = tokenName) ∧
    ∀ plan, planOf op cli needsToken = .ok plan →
      if needsToken then TakesToken plan else TakesNone op.inputFields plan := by
  refine ⟨?_, fun plan planned => ?_⟩
  · rw [planOf_eq_error, Bool.and_eq_true, hasTokenMember_eq_true, List.mem_map]
  · cases needsToken with
    | true => exact takesToken_of_planOf planned
    | false => exact takesNone_of_planOf planned named

private def refreshToken : Operation where
  name := "RefreshToken"
  route := "/token"
  method := "POST"
  documentation := ""
  traits := []
  input := some ⟨"RefreshTokenInput", [⟨"token", .primitive "string", true, "", false⟩]⟩
  output := none
  authExempt := true

/-- A member with the name of the token is refused beside it, and an ordinary member without it. -/
theorem planOf_token_refreshToken : (∃ e, planOf refreshToken "shop" true = .error e) ∧
    ∃ plan, planOf refreshToken "shop" false = .ok plan ∧
      TakesNone refreshToken.inputFields plan := by
  have named : ∀ f ∈ refreshToken.inputFields, f.name ≠ "" := by
    simp [refreshToken, Operation.inputFields]
  obtain ⟨plan, planned⟩ : ∃ plan, planOf refreshToken "shop" false = .ok plan := ⟨_, rfl⟩
  refine ⟨?_, plan, planned, ?_⟩
  · exact (planOf_token refreshToken "shop" true named).1.mpr ⟨rfl, _, List.mem_cons_self, rfl⟩
  · exact (planOf_token refreshToken "shop" false named).2 plan planned

private def signIn : Operation where
  name := "SignIn"
  route := "/sign-in"
  method := "POST"
  documentation := ""
  traits := []
  input := some ⟨"SignInInput", [⟨"token", .document, false, "", false⟩]⟩
  output := none
  authExempt := true

/-- A call that gives a list for the token, converted as the members of the operation are. -/
private def signInCall : Call where
  file := [(.str tokenName, .list [.int 1])]
  given _ := .null
  convert _ entries :=
    match convertFields ⟨.directory [], []⟩ [] (restrictFields IsLegible signIn.inputFields)
        entries with
    | (converted, none) => .ok converted
    | (_, some e) => .error e
  form := .fromMapping

/-- A document with the name of the token comes to the request as its JSON text. -/
theorem planOf_tokenDocument : ∃ plan, planOf signIn "shop" false = .ok plan ∧
    signInCall.Converts ⟨.directory [], []⟩ signIn.inputFields ∧
    (Parameters.merge signInCall.file (flagValues plan.flags signInCall.given)).get? tokenName
      = some (.list [.int 1]) ∧
    ∃ progress built, run signInCall (bodyOf plan) .start = .ok progress ∧
      progress.request = some built ∧ built.members.get? tokenName = some (.str "[1]") := by
  have legible : NamesHave IsLegible signIn.inputFields := by
    simp only [signIn, Operation.inputFields, NamesHave, TypeTree.NamesHave, and_true]
    exact (isWritable_of_all (by decide)).legible
  have converted : ∀ statements, signInCall.convert statements signInCall.file
      = .ok [(.str tokenName, .str "[1]")] := by
    intro statements
    rw [signInCall, restrictFields_of_namesHave _ legible]
    rfl
  obtain ⟨plan, planned⟩ : ∃ plan, planOf signIn "shop" false = .ok plan := ⟨_, rfl⟩
  refine ⟨plan, planned, fun _ => ?_, ?_, ?_⟩
  · obtain rfl := Except.ok.inj planned
    rfl
  · obtain rfl := Except.ok.inj planned
    rfl
  · have parameters : signInCall.parameters plan = .ok [(.str tokenName, .str "[1]")] := by
      obtain rfl := Except.ok.inj planned
      rw [Call.parameters, if_neg (by decide)]
      exact converted _
    refine ⟨⟨[(.str tokenName, .str "[1]")], none,
      some ⟨.fromMapping, [(.str tokenName, .str "[1]")]⟩⟩, _, ?_, rfl, rfl⟩
    rw [run_bodyOf, parameters]
    obtain rfl := Except.ok.inj planned
    rfl

end ServiceCli.Package
