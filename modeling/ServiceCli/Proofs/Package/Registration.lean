import ServiceCli.Proofs.Command.Identifier
import ServiceCli.Proofs.Package.FreeText
import ServiceCli.Proofs.Package.Program
import ServiceCli.Proofs.Service.Locality

set_option autoImplicit false
set_option relaxedAutoImplicit false

namespace ServiceCli.Package

open ServiceCli.Command ServiceCli.Data ServiceCli.Service ServiceCli.Settings ServiceCli.Shape
open ServiceCli.Source

def commandOf? : Line → Option String
  | .code "@app.command(" :: .quoted name :: _ => some name
  | _ => none

/-- The name of the function whose definition begins on a line. -/
def functionOf? : Line → Option String
  | [.code text] =>
    match text.toList with
    | 'd' :: 'e' :: 'f' :: ' ' :: rest => some (String.ofList rest.dropLast)
    | _ => none
  | _ => none

/-- The commands that a source registers, in order: their names and their functions. -/
def registered : List Line → List (String × String)
  | [] => []
  | l :: rest =>
    match commandOf? l, rest.head?.bind functionOf? with
    | some name, some function => (name, function) :: registered rest
    | _, _ => registered rest

def entryOf? : Line → Option String
  | [.code _, .quoted name, .code _] => some name
  | _ => none

def listedCommands (lines : List Line) : List String :=
  let entries := (lines.dropWhile (· != codeLine "COMMANDS = (")).tail
  (entries.takeWhile (· != codeLine ")")).filterMap entryOf?

/-- The function that a name stands for: of those registered under it, the last. -/
def reached (commands : List (String × String)) (name : String) : Option String :=
  commands.reverse.lookup name

/-- The operations that a service of a model declares, in the order of its list. -/
def Declares (model : Value) (id : String) (refs : List Ref) : Prop :=
  ∃ (graph : Graph) (shape : Entries) (listed : List Value),
    shapesOf model = .ok (.map graph) ∧ graph.get? id = some (.map shape) ∧
      ListsAll shape listed ∧ List.Forall₂ Targets listed refs

/-- A source registers one command for each of these operations, in order and under its name, and
lists the names; no two commands have the same function. -/
structure Registers (lines : List Line) (refs : List Ref) (functions : List String) : Prop where
  listed : listedCommands lines = refs.map Ref.name
  commands : registered lines = (refs.map Ref.name).zip functions
  length : functions.length = refs.length
  distinct : functions.Nodup

section Declared

variable {graph : Graph} {model : Value} {id : String}

theorem extractOperations_names {listed : List Value} {ops : List Operation}
    (extracted : extractOperations graph id listed = .ok ops) :
    ∃ refs, List.Forall₂ Targets listed refs ∧ ops.map Operation.name = refs.map Ref.name := by
  induction listed generalizing ops with
  | nil =>
    cases Except.ok.inj extracted
    exact ⟨[], .nil, rfl⟩
  | cons entry listed ih =>
    rw [extractOperations] at extracted
    split at extracted
    case isTrue => cases extracted
    obtain ⟨ref, refers, extracted⟩ := Outcome.bind_eq_ok.mp extracted
    obtain ⟨op, own, extracted⟩ := Outcome.bind_eq_ok.mp extracted
    obtain ⟨others, rest, extracted⟩ := Outcome.bind_eq_ok.mp extracted
    cases Outcome.pure_eq_ok.mp extracted
    obtain ⟨refs, targets, names⟩ := ih rest
    obtain ⟨_, _, extracts⟩ := extractOperation_eq_ok.mp own
    refine ⟨ref :: refs, .cons (refOf_eq_ok.mp refers) targets, ?_⟩
    rw [List.map_cons, List.map_cons, names, extracts.named]

theorem declares_of_extract {s : Service} (read : extract model id = .ok s) :
    ∃ refs, Declares model id refs ∧ s.operations.map Operation.name = refs.map Ref.name := by
  obtain ⟨graph, shape, shaped, reads⟩ := extract_eq_ok.mp read
  obtain ⟨listed, lists, extracted⟩ := reads.operations
  obtain ⟨refs, targets, names⟩ := extractOperations_names extracted
  exact ⟨refs, ⟨graph, shape, listed, shaped, reads.found, lists, targets⟩, names⟩

theorem Declares.unique {refs others : List Ref} (declares : Declares model id refs)
    (also : Declares model id others) : refs = others := by
  obtain ⟨graph, shape, listed, shaped, found, lists, targets⟩ := declares
  obtain ⟨graph', shape', listed', shaped', found', lists', targets'⟩ := also
  cases shaped.symm.trans shaped'
  cases found.symm.trans found'
  cases lists.symm.trans lists'
  clear lists lists'
  induction targets generalizing others with
  | nil => exact (List.forall₂_nil_left_iff.mp targets').symm
  | cons own _ ih =>
    obtain ⟨other, rest, same, later, rfl⟩ := List.forall₂_cons_left_iff.mp targets'
    obtain ⟨id, target, parsed⟩ := own
    obtain ⟨_, target', parsed'⟩ := same
    cases target.symm.trans target'
    rw [Option.some.inj (parsed.symm.trans parsed'), ih later]

/-- Within one scope, operations have the same name only when they are the same. -/
theorem names_nodup_iff {refs : List Ref} {scope : String} (all : ∀ r ∈ refs, r.scope = scope) :
    (refs.map Ref.name).Nodup ↔ refs.Nodup := by
  refine ⟨List.Nodup.of_map Ref.name, List.Nodup.map_on ?_⟩
  intro r member s also same
  have scopes : r.scope = s.scope := (all r member).trans (all s also).symm
  cases r
  cases s
  simp_all

end Declared

section Lines

variable (m : Meta)

theorem registered_cons_of_none {l : Line} (plain : commandOf? l = none) (rest : List Line) :
    registered (l :: rest) = registered rest := by
  rw [registered, plain]

theorem registered_append {front : List Line} (plain : ∀ l ∈ front, commandOf? l = none)
    (rest : List Line) : registered (front ++ rest) = registered rest := by
  induction front with
  | nil => rfl
  | cons l front ih =>
    have own := plain l List.mem_cons_self
    rw [List.cons_append, registered_cons_of_none own]
    exact ih fun l member => plain l (List.mem_cons_of_mem _ member)

theorem functionOf?_definition (name : String) :
    functionOf? (codeLine ("def " ++ name ++ "(")) = some name := by
  have word : "def ".toList = ['d', 'e', 'f', ' '] := rfl
  have bracket : "(".toList = ['('] := rfl
  simp [functionOf?, codeLine, word, bracket]

theorem commandOf?_indented (l : Line) : commandOf? (Line.indented 1 l) = none := by
  have blanks : "".pushn ' ' (4 * 1) = "    " := rfl
  rw [Line.indented, blanks]
  unfold commandOf?
  split
  · rename_i equal
    simp at equal
  · rfl

theorem commandOf?_flagLines (f : Flag) : ∀ l ∈ flagLines f, commandOf? l = none := by
  have reading : ∀ l ∈ readingLines f, commandOf? l = none := by
    intro l member
    rw [readingLines] at member
    split at member
    · exact absurd member List.not_mem_nil
    · obtain rfl := List.mem_singleton.mp member
      cases f.reading <;> rfl
  intro l member
  rw [flagLines] at member
  simp only [List.mem_append, List.mem_cons, List.not_mem_nil, or_false] at member
  rcases member with ((rfl | rfl | rfl | rfl | rfl) | later) | rfl
  case inl.inr => exact reading l later
  all_goals rfl

theorem functionLines_inner (plan : Plan) (name : String) :
    ∃ decorator inner, commandOf? decorator = some plan.operation.name ∧
      functionLines m plan name = [codeLine "", codeLine "", decorator,
        codeLine ("def " ++ name ++ "(")] ++ inner ∧ ∀ l ∈ inner, commandOf? l = none := by
  have flags : ∀ l ∈ plan.flags.flatMap flagLines, commandOf? l = none := by
    intro l member
    obtain ⟨f, -, among⟩ := List.mem_flatMap.mp member
    exact commandOf?_flagLines f l among
  have body : ∀ l ∈ (bodyOf plan).flatMap fun step => step.lines.map (Line.indented 1),
      commandOf? l = none := by
    intro l member
    obtain ⟨step, -, among⟩ := List.mem_flatMap.mp member
    obtain ⟨inner, -, rfl⟩ := List.mem_map.mp among
    exact commandOf?_indented inner
  rw [functionLines, List.append_assoc, List.append_assoc]
  refine ⟨_, _ :: _ :: _ :: (_ ++ ([_] ++ _)), rfl, rfl, ?_⟩
  simp only [List.forall_mem_cons, List.forall_mem_append]
  exact ⟨rfl, rfl, rfl, flags, ⟨rfl, fun _ member => absurd member List.not_mem_nil⟩, body⟩

theorem registered_functionLines (plan : Plan) (name : String) (rest : List Line) :
    registered (functionLines m plan name ++ rest)
      = (plan.operation.name, name) :: registered rest := by
  obtain ⟨decorator, inner, names, split, plain⟩ := functionLines_inner m plan name
  have defines : functionOf? (codeLine ("def " ++ name ++ "(")) = some name :=
    functionOf?_definition name
  rw [split, List.append_assoc]
  change registered (codeLine "" :: codeLine "" :: decorator :: codeLine ("def " ++ name ++ "(")
    :: (inner ++ rest)) = _
  rw [registered_cons_of_none rfl, registered_cons_of_none rfl, registered, names, List.head?_cons,
    Option.bind_some, defines]
  dsimp only
  rw [registered_cons_of_none rfl, registered_append plain]

theorem registered_sources (plans : List Plan) (names : List String) (rest : List Line) :
    registered ((List.zipWith (functionLines m) plans names).flatten ++ rest)
      = (plans.map (·.operation.name)).zip names ++ registered rest := by
  induction plans generalizing names with
  | nil => rfl
  | cons plan plans ih =>
    cases names with
    | nil => rfl
    | cons name names =>
      rw [List.zipWith_cons_cons, List.flatten_cons, List.append_assoc, registered_functionLines,
        ih, List.map_cons, List.zip_cons_cons, List.cons_append]

theorem commandOf?_codeLine (text : String) : commandOf? (codeLine text) = none := by
  rw [codeLine, commandOf?]
  rintro name rest ⟨⟩

theorem commandOf?_codeLines (texts : List String) :
    ∀ l ∈ codeLines texts, commandOf? l = none :=
  List.forall_mem_map.mpr fun text _ => commandOf?_codeLine text

theorem registered_programLines (plans : List Plan) : registered (programLines m plans)
    = (plans.map (·.operation.name)).zip (functionNames plans) := by
  have front : ∀ l ∈ headerLines m (plans.map (·.operation.name)), commandOf? l = none := by
    have entries : ∀ l ∈ (plans.map (·.operation.name)).map entryLine, commandOf? l = none :=
      List.forall_mem_map.mpr fun _ _ => rfl
    have fixed := commandOf?_codeLines
    rw [headerLines_eq, frontLines, backLines, importLines, applicationLines, versionLines,
      clientLines]
    simp only [List.forall_mem_append, List.forall_mem_cons, commandOf?_codeLine]
    have ended : ∀ l ∈ ([] : List Line), commandOf? l = none := List.forall_mem_nil _
    exact ⟨⟨⟨⟨⟨rfl, ended⟩, fixed _⟩, rfl, rfl, trivial, trivial, ended⟩, entries⟩,
      ⟨⟨fixed _, ⟨trivial, rfl, rfl, ended⟩, fixed _⟩, fixed _⟩, fixed _⟩
  have footer : registered (footerLines m) = [] := rfl
  rw [programLines, List.append_assoc, registered_append front, commandSources,
    registered_sources, footer, List.append_nil]

def introLines : List Line :=
  [[.quoted m.moduleDocumentation]] ++ importLines m
    ++ [[.code "DEFAULT_ENDPOINT = ", .quoted m.endpoint],
      [.code "ENDPOINT_ENV = ", .quoted m.endpointVariable], codeLine ""]

theorem introLines_ne : ∀ l ∈ introLines m, (l != codeLine "COMMANDS = (") = true := by
  have imports (rest : String) : "from " ++ rest ≠ "COMMANDS = (" := by
    intro same
    have heads := congrArg (fun s => s.toList.head?) same
    simp at heads
  simp [introLines, importLines, codeLines, codeLine, String.append_assoc, imports]

theorem programLines_eq (plans : List Plan) : programLines m plans
    = introLines m ++ codeLine "COMMANDS = (" :: ((plans.map (·.operation.name)).map entryLine
      ++ codeLine ")" :: ((backLines m).tail ++ (commandSources m plans).flatten
        ++ footerLines m)) := by
  have front : frontLines m = introLines m ++ [codeLine "COMMANDS = ("] := rfl
  have back : backLines m = codeLine ")" :: (backLines m).tail := rfl
  rw [programLines, headerLines_eq, front, back]
  simp only [List.append_assoc, List.cons_append, List.nil_append, List.tail_cons]

theorem listedCommands_append {front : List Line} (names : List String) (rest : List Line)
    (before : ∀ l ∈ front, (l != codeLine "COMMANDS = (") = true) :
    listedCommands (front ++ codeLine "COMMANDS = (" :: (names.map entryLine
      ++ codeLine ")" :: rest)) = names := by
  have entries : ((names.map entryLine ++ codeLine ")" :: rest).takeWhile
      (· != codeLine ")")).filterMap entryOf? = names := by
    induction names with
    | nil => rfl
    | cons name names ih =>
      have own : entryOf? (entryLine name) = some name := rfl
      rw [List.map_cons, List.cons_append, List.takeWhile_cons_of_pos rfl,
        List.filterMap_cons_some own, ih]
  rw [listedCommands, List.dropWhile_append_of_pos before, List.dropWhile_cons_of_neg (by simp)]
  exact entries

end Lines

section Functions

variable {before after first rest : List String}

theorem functionNamesOf_fresh (taken names : List String) :
    (functionNamesOf taken names).Nodup ∧ ∀ name ∈ functionNamesOf taken names, name ∉ taken := by
  induction names generalizing taken with
  | nil => exact ⟨List.nodup_nil, fun _ member => absurd member List.not_mem_nil⟩
  | cons name names ih =>
    have own := freeName_not_mem taken (identifier name ++ "_command")
    obtain ⟨differ, others⟩ := ih (taken ++ [freeName taken (identifier name ++ "_command")])
    refine ⟨List.nodup_cons.mpr ⟨fun member => ?_, differ⟩, List.forall_mem_cons.mpr ⟨own, ?_⟩⟩
    · exact others _ member (List.mem_append_right _ List.mem_cons_self)
    · exact fun later member among => others later member (List.mem_append_left _ among)

theorem functionNamesOf_length (taken names : List String) :
    (functionNamesOf taken names).length = names.length := by
  induction names generalizing taken with
  | nil => rfl
  | cons name names ih => rw [functionNamesOf, List.length_cons, ih, List.length_cons]

/-- A name stands for the function registered under it before others when none of these has the
name. -/
theorem reached_eq_some_iff {name function : String} (length : before.length = first.length)
    (distinct : (first ++ function :: rest).Nodup) (enough : after.length = rest.length) :
    reached ((before ++ name :: after).zip (first ++ function :: rest)) name = some function ↔
      name ∉ after := by
  have found : ((name, function) :: (before.zip first).reverse).lookup name = some function :=
    List.lookup_cons_self
  have split : ((before ++ name :: after).zip (first ++ function :: rest)).reverse
      = (after.zip rest).reverse ++ (name, function) :: (before.zip first).reverse := by
    rw [List.zip_append length, List.zip_cons_cons, List.reverse_append, List.reverse_cons,
      List.append_assoc, List.singleton_append]
  rw [reached, split, List.lookup_append, found]
  constructor
  · intro reaches hidden
    rw [← List.map_fst_zip (Nat.le_of_eq enough)] at hidden
    obtain ⟨later, member, named⟩ := List.mem_map.mp hidden
    cases answer : (after.zip rest).reverse.lookup name with
    | none =>
      have differ := List.lookup_eq_none_iff.mp answer _ (List.mem_reverse.mpr member)
      exact absurd named.symm (bne_iff_ne.mp differ)
    | some other =>
      -- a later function under the name would be this one
      rw [answer, Option.some_or] at reaches
      obtain ⟨front, back, entries, -⟩ := List.lookup_eq_some_iff.mp answer
      have among : (name, other) ∈ after.zip rest := by
        rw [← List.mem_reverse, entries]
        exact List.mem_append_right _ List.mem_cons_self
      have twice : function ∈ rest := Option.some.inj reaches ▸ (List.of_mem_zip among).2
      exact (List.nodup_cons.mp (List.nodup_append.mp distinct).2.1).1 twice
  · intro free
    have unnamed : (after.zip rest).reverse.lookup name = none := by
      rw [List.lookup_eq_none_iff]
      intro pair member
      have among := (List.of_mem_zip (List.mem_reverse.mp member)).1
      exact bne_iff_ne.mpr fun same => free (same ▸ among)
    rw [unnamed, Option.none_or]

end Functions

section Registration

variable {model : Value} {settings : Settings} {client : Client} {policy : Option AuthPolicy}
variable {c : Compiled}

theorem registers_programLines {m : Meta} {p : AuthPolicy} {command : String}
    {ops : List Operation} {plans : List Plan} {refs : List Ref}
    (planned : plansOf command p ops = .ok plans)
    (names : ops.map Operation.name = refs.map Ref.name) :
    Registers (programLines m plans) refs (functionNamesOf [] (refs.map Ref.name)) := by
  have own := (plansOf_names planned).trans names
  refine ⟨?listed, ?commands, ?length, (functionNamesOf_fresh [] _).1⟩
  case listed =>
    rw [programLines_eq, listedCommands_append _ _ (introLines_ne m), own]
  case commands =>
    rw [registered_programLines, functionNames, functionNamesFrom_eq, own]
  case length => rw [functionNamesOf_length, List.length_map]

namespace Registers

variable {lines : List Line} {refs before after : List Ref} {functions : List String} {ref : Ref}

theorem names (registers : Registers lines refs functions) :
    (registered lines).map Prod.fst = refs.map Ref.name := by
  have length : (refs.map Ref.name).length = functions.length := by
    rw [List.length_map, registers.length]
  rw [registers.commands, List.map_fst_zip (Nat.le_of_eq length)]

/-- An operation has a function, which its name stands for when no later operation has the name. -/
theorem reached_iff (registers : Registers lines (before ++ ref :: after) functions) :
    ∃ function, functions[before.length]? = some function ∧
      (reached (registered lines) ref.name = some function ↔
        ref.name ∉ after.map Ref.name) := by
  have length : functions.length = before.length + (after.length + 1) := by
    rw [registers.length, List.length_append, List.length_cons]
  obtain ⟨first, function, rest, rfl, place⟩ : ∃ first function rest,
      functions = first ++ function :: rest ∧ before.length = first.length := by
    have below : before.length < functions.length := by omega
    refine ⟨functions.take before.length, functions[before.length],
      functions.drop (before.length + 1), ?_, ?_⟩
    · rw [← List.drop_eq_getElem_cons below, List.take_append_drop]
    · rw [List.length_take]
      omega
  rw [List.length_append, List.length_cons] at length
  refine ⟨function, by simp [place], ?_⟩
  rw [registers.commands, List.map_append, List.map_cons]
  refine reached_eq_some_iff ?_ registers.distinct ?_
  · rw [List.length_map, place]
  · rw [List.length_map]
    omega

end Registers

theorem registers_of_compile (compiled : compile model settings client policy = .ok c) :
    ∃ id refs m plans, chosenService model settings = .ok id ∧ Declares model id refs ∧
      m = metaOf c.service settings client c.command ∧
      plansOf c.command (policy.getD (bearerAuth c.service)) c.service.operations = .ok plans ∧
      ⟨"src/" ++ m.package ++ "/cli.py", textOf (programLines m plans)⟩ ∈ c.files ∧
      Registers (programLines m plans) refs (functionNamesOf [] (refs.map Ref.name)) := by
  obtain ⟨id, plans, chosen, read, -, planned, files⟩ := compile_eq_ok compiled
  obtain ⟨refs, declares, names⟩ := declares_of_extract read
  refine ⟨id, refs, _, plans, chosen, declares, rfl, planned, ?written,
    registers_programLines planned names⟩
  case written => simp [files, filesOf]

/-- The program of a package registers one command for each operation that the service declares. The
names of the commands differ when those of the operations do, which for operations of one scope
means that none is listed twice; the name of an operation stands for its own function unless an
operation declared after it has the same name. -/
theorem compile_registers (compiled : compile model settings client policy = .ok c) :
    ∃ id refs m plans functions, chosenService model settings = .ok id ∧ Declares model id refs ∧
      m = metaOf c.service settings client c.command ∧
      plansOf c.command (policy.getD (bearerAuth c.service)) c.service.operations = .ok plans ∧
      ⟨"src/" ++ m.package ++ "/cli.py", textOf (programLines m plans)⟩ ∈ c.files ∧
      functions = functionNamesOf [] (refs.map Ref.name) ∧
      Registers (programLines m plans) refs functions ∧
      (((registered (programLines m plans)).map Prod.fst).Nodup ↔
        refs.Pairwise fun r s => r.name ≠ s.name) ∧
      (∀ scope, (∀ r ∈ refs, r.scope = scope) →
        (((registered (programLines m plans)).map Prod.fst).Nodup ↔ refs.Nodup)) ∧
      ∀ before ref after, refs = before ++ ref :: after →
        ∃ function, functions[before.length]? = some function ∧
          (reached (registered (programLines m plans)) ref.name = some function ↔
            ref.name ∉ after.map Ref.name) := by
  obtain ⟨id, refs, m, plans, chosen, declares, about, planned, written, registers⟩ :=
    registers_of_compile compiled
  refine ⟨id, refs, m, plans, _, chosen, declares, about, planned, written, rfl, registers,
    ?differ, ?oneScope, ?own⟩
  case differ => rw [registers.names, List.Nodup, List.pairwise_map]
  case oneScope =>
    intro scope all
    rw [registers.names, names_nodup_iff all]
  case own =>
    intro before ref after split
    subst split
    exact registers.reached_iff

private def kennelShape (listed : List String) : Entries := [(.str "type", .str "service"),
  (.str "operations", .list (listed.map fun id => .object [("target", .str id)]))]

private def kennelOperation (uri : String) : Value := .object [("type", .str "operation"),
  ("traits", .object [("smithy.api#http", .object [("uri", .str uri)])])]

/-- A kennel with operations of the same name in two scopes. -/
private def kennelGraph (listed : List String) : Graph := [
  (.str "dogs#Kennel", .map (kennelShape listed)), (.str "dogs#Get", kennelOperation "/dog"),
  (.str "dogs#List", kennelOperation "/dogs"), (.str "cats#Get", kennelOperation "/cat")]

private def kennel (listed : List String) : Value := .object [("shapes", .map (kennelGraph listed))]

private def kennelSettings : Settings := fun _ => none

private def kennelClient : Client := ⟨"client", "1", none⟩

private theorem kennel_declares {listed : List String} {refs : List Ref}
    (parsed : List.Forall₂ (fun id ref => Ref.parse? id = some ref) listed refs) :
    Declares (kennel listed) "dogs#Kennel" refs := by
  have lists : ListsAll (kennelShape listed)
      (listed.map fun id => .object [("target", .str id)]) := by
    cases listed with
    | nil => rfl
    | cons id listed => rfl
  refine ⟨kennelGraph listed, kennelShape listed, _, rfl, rfl, lists, ?_⟩
  rw [List.forall₂_map_left_iff]
  exact parsed.imp fun id ref denotes => ⟨id, rfl, denotes⟩

private theorem kennel_chosen (listed : List String) :
    chosenService (kennel listed) kennelSettings = .ok "dogs#Kennel" := rfl

/-- Operations with different names are registered under different names. -/
theorem compile_registers_kennel : ∃ c lines functions,
    compile (kennel ["dogs#Get", "dogs#List"]) kennelSettings kennelClient none = .ok c ∧
    ⟨"src/kennel/cli.py", textOf lines⟩ ∈ c.files ∧
    Registers lines [⟨"dogs", "Get"⟩, ⟨"dogs", "List"⟩] functions ∧
    ((registered lines).map Prod.fst).Nodup := by
  obtain ⟨c, compiled, named⟩ : ∃ c, compile (kennel ["dogs#Get", "dogs#List"]) kennelSettings
      kennelClient none = .ok c ∧ c.command = "kennel" := ⟨_, rfl, rfl⟩
  obtain ⟨id, refs, m, plans, functions, chosen, declares, rfl, -, written, -, registers, -,
    oneScope, -⟩ := compile_registers compiled
  cases (kennel_chosen _).symm.trans chosen
  obtain rfl : refs = [⟨"dogs", "Get"⟩, ⟨"dogs", "List"⟩] :=
    declares.unique (kennel_declares (.cons rfl (.cons rfl .nil)))
  have place : (metaOf c.service kennelSettings kennelClient c.command).package = "kennel" :=
    (congrArg packageName named).trans (by decide)
  rw [place] at written
  exact ⟨c, _, functions, compiled, written, registers, (oneScope "dogs" (by simp)).mpr (by decide)⟩

/-- Of operations with the same name, the first is hidden. -/
theorem compile_registers_twins : ∃ c lines,
    compile (kennel ["dogs#Get", "cats#Get"]) kennelSettings kennelClient none = .ok c ∧
    Declares (kennel ["dogs#Get", "cats#Get"]) "dogs#Kennel" [⟨"dogs", "Get"⟩, ⟨"cats", "Get"⟩] ∧
    ⟨"src/kennel/cli.py", textOf lines⟩ ∈ c.files ∧
    registered lines = [("Get", "get_command"), ("Get", "get_command_")] ∧
    listedCommands lines = ["Get", "Get"] ∧ ¬((registered lines).map Prod.fst).Nodup ∧
    reached (registered lines) "Get" = some "get_command_" := by
  obtain ⟨c, compiled, named⟩ : ∃ c, compile (kennel ["dogs#Get", "cats#Get"]) kennelSettings
      kennelClient none = .ok c ∧ c.command = "kennel" := ⟨_, rfl, rfl⟩
  obtain ⟨id, refs, m, plans, chosen, declares, rfl, -, written, registers⟩ :=
    registers_of_compile compiled
  cases (kennel_chosen _).symm.trans chosen
  obtain rfl : refs = [⟨"dogs", "Get"⟩, ⟨"cats", "Get"⟩] :=
    declares.unique (kennel_declares (.cons rfl (.cons rfl .nil)))
  have place : (metaOf c.service kennelSettings kennelClient c.command).package = "kennel" :=
    (congrArg packageName named).trans (by decide)
  rw [place] at written
  have commands : registered _ = [("Get", "get_command"), ("Get", "get_command_")] :=
    registers.commands
  refine ⟨c, _, compiled, declares, written, commands, registers.listed, ?_, ?_⟩
  · rw [commands]
    decide
  · rw [commands]
    rfl

end Registration

end ServiceCli.Package
