import ServiceCli.Package.Compile
import ServiceCli.Proofs.Command.Undocumented
import ServiceCli.Proofs.Source.Skeleton

/-!
Free text in a generated package. Documentation, the description and the version of a package and
its endpoint reach the modules of the package only as quoted texts: packages that differ in nothing
else have the same code, and every text is quoted whole.
-/

set_option autoImplicit false
set_option relaxedAutoImplicit false

namespace ServiceCli.Package

open ServiceCli.Command ServiceCli.Conversion ServiceCli.Data ServiceCli.Service
open ServiceCli.Settings ServiceCli.Shape ServiceCli.Source
open ServiceCli.Script (Stand)

/-- What a package says about itself without its free text. -/
def Meta.undescribed (m : Meta) : Meta :=
  { m with description := "", version := "", endpoint := "" }

section Skeleton

variable (m other : Meta) (plan : Plan) (plans : List Plan)

theorem initLines_undescribed : skeleton (initLines m.undescribed) = skeleton (initLines m) := rfl

theorem headerLines_undescribed (names : List String) :
    skeleton (headerLines m.undescribed names) = skeleton (headerLines m names) := by
  rw [headerLines, headerLines]
  simp only [skeleton_append]
  rfl

theorem functionNames_undocumented :
    functionNames (plans.map Plan.undocumented) = functionNames plans := by
  have within (taken : List String) : functionNamesFrom taken (plans.map Plan.undocumented)
      = functionNamesFrom taken plans := by
    induction plans generalizing taken with
    | nil => rfl
    | cons plan plans ih =>
      rw [List.map_cons, functionNamesFrom, functionNamesFrom]
      exact congrArg _ (ih _)
  exact within []

theorem bodyOf_undocumented :
    (bodyOf plan.undocumented).flatMap Step.lines = (bodyOf plan).flatMap Step.lines := by
  have merged : (Step.merge plan.undocumented.flags).lines = (Step.merge plan.flags).lines := by
    rw [Step.lines, Step.lines, Plan.undocumented, List.map_map]
    rfl
  have calls : callSteps plan.undocumented = callSteps plan := by
    rw [callSteps, callSteps]
    cases input : plan.operation.input with
    | none => simp [Plan.undocumented, Operation.undocumented, input, methodName]
    | some payload =>
      simp [Plan.undocumented, Operation.undocumented, input, methodName, Payload.undocumented]
  rw [bodyOf, bodyOf, calls]
  simp only [List.flatMap_append, List.flatMap_cons, merged]
  rfl

theorem functionLines_undocumented (name : String) :
    skeleton (functionLines other plan.undocumented name)
      = skeleton (functionLines m plan name) := by
  have flags : skeleton (plan.undocumented.flags.flatMap flagLines)
      = skeleton (plan.flags.flatMap flagLines) := by
    rw [skeleton, skeleton, List.map_flatMap, List.map_flatMap, Plan.undocumented, List.flatMap_map]
    rfl
  have body : ((bodyOf plan.undocumented).flatMap fun step => step.lines.map (Line.indented 1))
      = (bodyOf plan).flatMap fun step => step.lines.map (Line.indented 1) := by
    rw [← List.map_flatMap, bodyOf_undocumented, List.map_flatMap]
  rw [functionLines, functionLines, body]
  simp only [skeleton_append, flags]
  -- the texts, of which a help text is one, are blank before the two sides are compared
  simp only [skeleton, List.map_cons, List.map_nil, blankLine, Piece.blank]

theorem commandSources_undocumented :
    skeleton (commandSources other (plans.map Plan.undocumented)).flatten
      = skeleton (commandSources m plans).flatten := by
  have each (names : List String) :
      (List.zipWith (functionLines other) (plans.map Plan.undocumented) names).map skeleton
        = (List.zipWith (functionLines m) plans names).map skeleton := by
    rw [List.zipWith_map_left, List.map_zipWith, List.map_zipWith]
    simp only [functionLines_undocumented m other]
  rw [commandSources, commandSources, functionNames_undocumented, skeleton, skeleton,
    List.map_flatten, List.map_flatten]
  exact congrArg List.flatten (each _)

theorem programLines_undocumented :
    skeleton (programLines m.undescribed (plans.map Plan.undocumented))
      = skeleton (programLines m plans) := by
  have names : (plans.map Plan.undocumented).map (·.operation.name)
      = plans.map (·.operation.name) := by
    rw [List.map_map]
    rfl
  rw [programLines, programLines, names]
  simp only [skeleton_append, headerLines_undescribed, commandSources_undocumented m]
  rfl

end Skeleton

section Quoting

variable (m : Meta) (plan : Plan) (plans : List Plan)

theorem initLines_quote : AllQuoteInCode (initLines m) := by
  have description : QuotesInCode .code [.quoted m.description] := ⟨rfl, trivial⟩
  have version : QuotesInCode .code [.code "__version__ = ", .quoted m.version] :=
    ⟨by decide, trivial⟩
  simp [initLines, description, version]

theorem commandLines_quote (names : List String) : AllQuoteInCode (commandLines names) := by
  have entries : AllQuoteInCode (names.map fun name =>
      [.code "    ", .quoted name, .code ","]) :=
    List.forall_mem_map.mpr fun name _ => quotesInCode_between (by decide) name ","
  simp [commandLines, entries]

theorem applicationLines_quote : AllQuoteInCode (applicationLines m) := by
  have name : QuotesInCode .code [.code "    name=", .quoted m.command, .code ","] :=
    quotesInCode_between (by decide) m.command ","
  have help : QuotesInCode .code [.code "    help=", .quoted m.description, .code ","] :=
    quotesInCode_between (by decide) m.description ","
  simp [applicationLines, name, help]

theorem headerLines_quote (names : List String) : AllQuoteInCode (headerLines m names) := by
  have documentation : QuotesInCode .code [.quoted m.moduleDocumentation] := ⟨rfl, trivial⟩
  have endpoint : QuotesInCode .code [.code "DEFAULT_ENDPOINT = ", .quoted m.endpoint] :=
    ⟨by decide, trivial⟩
  have place : QuotesInCode .code [.code "ENDPOINT_ENV = ", .quoted m.endpointVariable] :=
    ⟨by decide, trivial⟩
  simp [headerLines, importLines, versionLines, clientLines, documentation, endpoint, place,
    commandLines_quote names, applicationLines_quote m]

theorem footerLines_quote : AllQuoteInCode (footerLines m) := by
  have run : QuotesInCode .code [.code "    app(prog_name=", .quoted m.command, .code ")"] :=
    quotesInCode_between (by decide) m.command ")"
  simp [footerLines, run]

theorem readingLines_quote (f : Flag) : AllQuoteInCode (readingLines f) := by
  have parser : QuotesInCode .code
      [.code ("        parser=rt." ++ f.reading.name ++ "_parser("), .quoted f.option,
        .code "),"] := by
    refine quotesInCode_between ?_ f.option "),"
    cases f.reading <;> decide
  rw [readingLines]
  split
  · exact allQuoteInCode_nil
  · exact allQuoteInCode_cons.mpr ⟨parser, allQuoteInCode_nil⟩

theorem flagLines_quote (f : Flag) : AllQuoteInCode (flagLines f) := by
  have option : QuotesInCode .code [.code "        ", .quoted f.option, .code ","] :=
    quotesInCode_between (by decide) f.option ","
  have placeholder :
      QuotesInCode .code [.code "        metavar=", .quoted f.placeholder, .code ","] :=
    quotesInCode_between (by decide) f.placeholder ","
  have help : QuotesInCode .code [.code "        help=", .quoted f.description, .code ","] :=
    quotesInCode_between (by decide) f.description ","
  simp [flagLines, option, placeholder, help, readingLines_quote f]

theorem step_quote (step : Step) : AllQuoteInCode step.lines := by
  cases step with
  | merge flags =>
    have entries : AllQuoteInCode (flags.map fun f =>
        [.code "        ", .quoted f.name, .code (": " ++ f.parameter ++ ",")]) :=
      List.forall_mem_map.mpr fun f _ => quotesInCode_between (by decide) f.name _
    simp [Step.lines, entries]
  | convert statements =>
    have converted : AllQuoteInCode ((linesOf statements).map fun l => codeLine ("    " ++ l)) :=
      List.forall_mem_map.mpr fun l _ => quotesInCode_codeLine _
    simp [Step.lines, converted]
  | validate required =>
    have closed : Stand.code.after "rt.validate_required(params, ".toList = .code := by decide
    refine allQuoteInCode_cons.mpr ⟨?_, allQuoteInCode_nil⟩
    rw [List.cons_append, QuotesInCode, closed]
    exact quotedList_quote required fun _ => trivial
  | sendInput method closesStreams => cases closesStreams <;> simp [Step.lines]
  | _ => simp [Step.lines]

theorem functionLines_quote (name : String) : AllQuoteInCode (functionLines m plan name) := by
  have command : QuotesInCode .code [.code "@app.command(", .quoted plan.operation.name,
      .code ", help=", .quoted (helpText m plan), .code ")"] :=
    ⟨by decide, by decide, trivial⟩
  have indented (l : Line) (quotes : QuotesInCode .code l) :
      QuotesInCode .code (Line.indented 1 l) := by
    have blanks : Stand.code.after ("".pushn ' ' (4 * 1)).toList = .code := by decide
    rw [Line.indented, QuotesInCode, blanks]
    exact quotes
  have flags : AllQuoteInCode (plan.flags.flatMap flagLines) := by
    intro l member
    obtain ⟨f, -, there⟩ := List.mem_flatMap.mp member
    exact flagLines_quote f l there
  have body : AllQuoteInCode
      ((bodyOf plan).flatMap fun step => step.lines.map (Line.indented 1)) := by
    intro l member
    obtain ⟨step, -, there⟩ := List.mem_flatMap.mp member
    obtain ⟨inner, among, rfl⟩ := List.mem_map.mp there
    exact indented inner (step_quote step inner among)
  simp [functionLines, command, flags, body]

theorem programLines_quote : AllQuoteInCode (programLines m plans) := by
  have sources : AllQuoteInCode (commandSources m plans).flatten := by
    intro l member
    obtain ⟨source, among, there⟩ := List.mem_flatten.mp member
    rw [commandSources, ← List.map_uncurry_zip_eq_zipWith] at among
    obtain ⟨⟨plan, name⟩, -, rfl⟩ := List.mem_map.mp among
    exact functionLines_quote m plan name l there
  simp [programLines, headerLines_quote, sources, footerLines_quote]

end Quoting

def freeSettings : List Setting := [.cliDescription, .cliVersion, .defaultEndpoint]

section Compile

variable {command name : String} {policy other : AuthPolicy} {ops also : List Operation}
variable {plans others : List Plan} {service twin : Service}

/-- Operations that are the same without documentation, and for which a token is needed alike, have
plans that are the same without their texts. -/
theorem plansOf_undocumented (planned : plansOf command policy ops = .ok plans)
    (alsoPlanned : plansOf name other also = .ok others)
    (same : ops.map Operation.undocumented = also.map Operation.undocumented)
    (alike : ops.map policy = also.map other) :
    plans.map Plan.undocumented = others.map Plan.undocumented := by
  induction ops generalizing also plans others with
  | nil =>
    obtain rfl : also = [] := by simpa using same.symm
    cases Except.ok.inj planned
    cases Except.ok.inj alsoPlanned
    rfl
  | cons op ops ih =>
    obtain _ | ⟨twin, also⟩ := also
    · exact absurd same (by simp)
    rw [List.map_cons, List.map_cons, List.cons.injEq] at same alike
    obtain ⟨plan, own, planned⟩ := Outcome.bind_eq_ok.mp planned
    obtain ⟨rest, left, planned⟩ := Outcome.bind_eq_ok.mp planned
    obtain ⟨plan', own', alsoPlanned⟩ := Outcome.bind_eq_ok.mp alsoPlanned
    obtain ⟨rest', left', alsoPlanned⟩ := Outcome.bind_eq_ok.mp alsoPlanned
    cases Outcome.pure_eq_ok.mp planned
    cases Outcome.pure_eq_ok.mp alsoPlanned
    rw [← alike.1] at own'
    rw [List.map_cons, List.map_cons, ih left left' same.2 alike.2, planOf_undocumented own,
      planOf_undocumented own', same.1]

theorem bearerAuth_undocumented (same : undocumentedService service = undocumentedService twin) :
    service.operations.map (bearerAuth service) = twin.operations.map (bearerAuth twin) := by
  have asks : service.requiresAuth = twin.requiresAuth := (congrArg Service.requiresAuth same :)
  have operations : service.operations.map Operation.undocumented
      = twin.operations.map Operation.undocumented := (congrArg Service.operations same :)
  have exempt : service.operations.map Operation.authExempt
      = twin.operations.map Operation.authExempt := by
    have marks := congrArg (List.map Operation.authExempt) operations
    rw [List.map_map, List.map_map] at marks
    exact marks
  have verdicts (s : Service) : s.operations.map (bearerAuth s)
      = (s.operations.map Operation.authExempt).map fun exempt => s.requiresAuth && !exempt := by
    rw [List.map_map]
    rfl
  rw [verdicts, verdicts, exempt, asks]

theorem compile_eq_ok {model : Value} {settings : Settings} {client : Client}
    {policy : Option AuthPolicy} {c : Compiled}
    (compiled : compile model settings client policy = .ok c) :
    ∃ id plans, chosenService model settings = .ok id ∧ extract model id = .ok c.service ∧
      chosenCommand c.service settings = .ok c.command ∧
      plansOf c.command (policy.getD (bearerAuth c.service)) c.service.operations = .ok plans ∧
      c.files = filesOf (metaOf c.service settings client c.command) plans := by
  obtain ⟨id, chosen, compiled⟩ := Outcome.bind_eq_ok.mp compiled
  obtain ⟨service, read, compiled⟩ := Outcome.bind_eq_ok.mp compiled
  obtain ⟨command, named, compiled⟩ := Outcome.bind_eq_ok.mp compiled
  obtain ⟨plans, planned, compiled⟩ := Outcome.bind_eq_ok.mp compiled
  cases Outcome.pure_eq_ok.mp compiled
  exact ⟨id, plans, chosen, read, named, planned, rfl⟩

end Compile

section FreeText

variable {model₁ model₂ : Value} {settings₁ settings₂ : Settings} {client : Client}
variable {policy : Option AuthPolicy} {c₁ c₂ : Compiled}

private theorem given_alike (settings : ∀ s, s ∉ freeSettings → settings₁ s = settings₂ s)
    {s : Setting} (shared : s ∉ freeSettings) : settings₁.given? s = settings₂.given? s := by
  rw [Settings.given?, Settings.given?, settings s shared]

private theorem service_alike (models : undocumentedModel model₁ = undocumentedModel model₂)
    (settings : ∀ s, s ∉ freeSettings → settings₁ s = settings₂ s) {id₁ id₂ : String}
    {service₁ service₂ : Service} (chosen₁ : chosenService model₁ settings₁ = .ok id₁)
    (chosen₂ : chosenService model₂ settings₂ = .ok id₂)
    (read₁ : extract model₁ id₁ = .ok service₁) (read₂ : extract model₂ id₂ = .ok service₂) :
    undocumentedService service₁ = undocumentedService service₂ := by
  have chosen : chosenService model₁ settings₁ = chosenService model₂ settings₂ := by
    rw [chosenService, chosenService, given_alike settings (by decide),
      ← onlyService_undocumentedModel model₁, models, onlyService_undocumentedModel]
  obtain rfl : id₁ = id₂ := Except.ok.inj (chosen₁.symm.trans (chosen.trans chosen₂))
  have read := extract_undocumented read₁
  rw [models, extract_undocumented read₂] at read
  exact (Except.ok.inj read).symm

/-- Compilations of models that are the same but for their documentation, with settings that are the
same but for the texts that are only shown, give packages with the same code: the module that runs
the package is the same, the other modules are the same outside their literals and have as many
lines, and every text is quoted whole. A policy that is given decides alike in both. -/
theorem compile_freeText (models : undocumentedModel model₁ = undocumentedModel model₂)
    (settings : ∀ s, s ∉ freeSettings → settings₁ s = settings₂ s)
    (alike : ∀ p, policy = some p → c₁.service.operations.map p = c₂.service.operations.map p)
    (first : compile model₁ settings₁ client policy = .ok c₁)
    (second : compile model₂ settings₂ client policy = .ok c₂) :
    ∃ folder main m₁ m₂ plans₁ plans₂,
      m₁ = metaOf c₁.service settings₁ client c₁.command ∧
      m₂ = metaOf c₂.service settings₂ client c₂.command ∧
      plansOf c₁.command (policy.getD (bearerAuth c₁.service)) c₁.service.operations = .ok plans₁ ∧
      plansOf c₂.command (policy.getD (bearerAuth c₂.service)) c₂.service.operations = .ok plans₂ ∧
      c₁.files = [⟨"pyproject.toml", manifestText m₁⟩,
        ⟨folder ++ "/__init__.py", Source.textOf (initLines m₁)⟩, ⟨folder ++ "/__main__.py", main⟩,
        ⟨folder ++ "/cli.py", Source.textOf (programLines m₁ plans₁)⟩] ∧
      c₂.files = [⟨"pyproject.toml", manifestText m₂⟩,
        ⟨folder ++ "/__init__.py", Source.textOf (initLines m₂)⟩, ⟨folder ++ "/__main__.py", main⟩,
        ⟨folder ++ "/cli.py", Source.textOf (programLines m₂ plans₂)⟩] ∧
      SameCode (initLines m₁) (initLines m₂) ∧
      SameCode (programLines m₁ plans₁) (programLines m₂ plans₂) ∧
      ∀ source ∈ [initLines m₁, initLines m₂, programLines m₁ plans₁, programLines m₂ plans₂],
        ∀ before s after, before ++ .quoted s :: after ∈ source → QuotesWhole before s := by
  obtain ⟨id₁, plans₁, chosen₁, read₁, named₁, planned₁, files₁⟩ := compile_eq_ok first
  obtain ⟨id₂, plans₂, chosen₂, read₂, named₂, planned₂, files₂⟩ := compile_eq_ok second
  have service := service_alike models settings chosen₁ chosen₂ read₁ read₂
  have ref : c₁.service.ref = c₂.service.ref := (congrArg Service.ref service :)
  have operations : c₁.service.operations.map Operation.undocumented
      = c₂.service.operations.map Operation.undocumented := (congrArg Service.operations service :)
  have command : c₁.command = c₂.command := by
    have chosen : chosenCommand c₁.service settings₁ = chosenCommand c₂.service settings₂ := by
      rw [chosenCommand, chosenCommand, given_alike settings (by decide), Service.name,
        Service.name, ref]
    exact Except.ok.inj (named₁.symm.trans (chosen.trans named₂))
  have about : (metaOf c₁.service settings₁ client c₁.command).undescribed
      = (metaOf c₂.service settings₂ client c₂.command).undescribed := by
    simp only [Meta.undescribed, metaOf, command, ref, Service.name]
  have verdicts : c₁.service.operations.map (policy.getD (bearerAuth c₁.service))
      = c₂.service.operations.map (policy.getD (bearerAuth c₂.service)) := by
    cases policy with
    | none => exact bearerAuth_undocumented service
    | some p => exact alike p rfl
  have plans := plansOf_undocumented planned₁ planned₂ operations verdicts
  have init : skeleton (initLines (metaOf c₁.service settings₁ client c₁.command))
      = skeleton (initLines (metaOf c₂.service settings₂ client c₂.command)) := by
    rw [← initLines_undescribed, about, initLines_undescribed]
  have program : skeleton (programLines (metaOf c₁.service settings₁ client c₁.command) plans₁)
      = skeleton (programLines (metaOf c₂.service settings₂ client c₂.command) plans₂) := by
    rw [← programLines_undocumented, about, plans, programLines_undocumented]
  refine ⟨_, _, _, _, plans₁, plans₂, rfl, rfl, planned₁, planned₂, files₁, ?files,
    sameCode_of_skeleton (initLines_quote _) (initLines_quote _) init,
    sameCode_of_skeleton (programLines_quote _ _) (programLines_quote _ _) program, ?whole⟩
  case files =>
    rw [files₂, filesOf]
    simp only [mainLines, metaOf, command]
  case whole =>
    simp only [List.forall_mem_cons]
    exact ⟨fun _ _ _ => (initLines_quote _).whole, fun _ _ _ => (initLines_quote _).whole,
      fun _ _ _ => (programLines_quote _ _).whole, fun _ _ _ => (programLines_quote _ _).whole,
      by simp⟩

private def documented (text : String) (entries : List (String × Value)) : Value :=
  .object (entries ++ [("traits", .object [("smithy.api#documentation", .str text)])])

/-- A shop with one operation, whose documentation is one text everywhere. -/
private def shop (text : String) : Value := .object [("shapes", .object [
  ("shop#Shop", documented text [("type", .str "service"),
    ("operations", .list [.object [("target", .str "shop#Tag")]])]),
  ("shop#Tag", .object [("type", .str "operation"),
    ("input", .object [("target", .str "shop#TagInput")]),
    ("traits", .object [("smithy.api#http", .object [("uri", .str "/tags")]),
      ("smithy.api#documentation", .str text)])]),
  ("shop#TagInput", .object [("type", .str "structure"),
    ("members", .object [("labels", documented text [("target", .str "shop#Labels")])])]),
  ("shop#Labels", .object [("type", .str "map"),
    ("key", documented text [("target", .str "smithy.api#String")]),
    ("value", documented text [("target", .str "smithy.api#String")])])])]

private def shopSettings (text : String) : Settings
  | .cliDescription => some text
  | .cliVersion => some text
  | .defaultEndpoint => some text
  | _ => none

private def hostile : String := "\"\"\" ' \\ # \n \x7b\x7b x \x7d\x7d"

/-- A text with quotes, a backslash and a line break leaves the code of a package as it is. -/
theorem compile_freeText_shop : ∃ c₁ c₂ path lines₁ lines₂,
    compile (shop "Tags.") (shopSettings "Tags.") ⟨"client", "1", none⟩ none = .ok c₁ ∧
    compile (shop hostile) (shopSettings hostile) ⟨"client", "1", none⟩ none = .ok c₂ ∧
    ⟨path, Source.textOf lines₁⟩ ∈ c₁.files ∧ ⟨path, Source.textOf lines₂⟩ ∈ c₂.files ∧
    SameCode lines₁ lines₂ ∧ QuotesWhole [.code "__version__ = "] hostile := by
  have settings : ∀ s, s ∉ freeSettings → shopSettings "Tags." s = shopSettings hostile s := by
    intro s shared
    cases s with
    | cliDescription | cliVersion | defaultEndpoint => exact absurd (by decide) shared
    | _ => rfl
  obtain ⟨c₁, first⟩ : ∃ c, compile (shop "Tags.") (shopSettings "Tags.")
      ⟨"client", "1", none⟩ none = .ok c := ⟨_, rfl⟩
  obtain ⟨c₂, second⟩ : ∃ c, compile (shop hostile) (shopSettings hostile)
      ⟨"client", "1", none⟩ none = .ok c := ⟨_, rfl⟩
  have models : undocumentedModel (shop "Tags.") = undocumentedModel (shop hostile) := rfl
  have undecided (p : AuthPolicy) (given : (none : Option AuthPolicy) = some p) :
      c₁.service.operations.map p = c₂.service.operations.map p := nomatch given
  obtain ⟨folder, _, m₁, m₂, plans₁, plans₂, -, rfl, -, -, files₁, files₂, -, program, whole⟩ :=
    compile_freeText models settings undecided first second
  refine ⟨c₁, c₂, folder ++ "/cli.py", _, _, first, second, ?_, ?_, program, ?_⟩
  · simp [files₁]
  · simp [files₂]
  · refine whole _ (List.mem_cons_of_mem _ List.mem_cons_self) _ hostile [] ?_
    exact List.mem_cons_of_mem _ (List.mem_cons_of_mem _ List.mem_cons_self)

end FreeText

end ServiceCli.Package
