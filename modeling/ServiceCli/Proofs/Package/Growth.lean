import ServiceCli.Package.Compile
import ServiceCli.Proofs.Package.FreeText
import ServiceCli.Proofs.Package.Program
import ServiceCli.Proofs.Service.Locality

/-!
What a package is made from. With a service that is set, compiling looks at the shape of that
service, at those of the operations that it lists, and at what their inputs and outputs lead to.
Main statement: models that hold the same there compile alike, to the same files or to the same
failure.
-/

set_option autoImplicit false
set_option relaxedAutoImplicit false

namespace ServiceCli.Package

open ServiceCli.Data ServiceCli.Service ServiceCli.Settings ServiceCli.Shape Relation

section Compile

variable {model₁ model₂ : Value} {g₁ g₂ : Graph} {settings : Settings} {id : String}

theorem chosenService_given (given : settings.given? .service = some id) (model : Value) :
    chosenService model settings = .ok id := by
  rw [chosenService, given]

/-- Models that hold the same under every id that reading the service consults compile alike: the
order of their shapes, the shapes that nothing leads to and the rest of the models do not matter. -/
theorem compile_local (shaped₁ : shapesOf model₁ = .ok (.map g₁))
    (shaped₂ : shapesOf model₂ = .ok (.map g₂)) (given : settings.given? .service = some id)
    (agree : ∀ name, Consulted g₁ id name → g₁.get? name = g₂.get? name) (client : Client)
    (policy : Option AuthPolicy) :
    compile model₁ settings client policy = compile model₂ settings client policy := by
  have read : extract model₁ id = extract model₂ id := extract_local shaped₁ shaped₂ agree
  rw [compile, compile, chosenService_given given, chosenService_given given]
  simp only [Outcome.ok_bind, read]

private def depotShape : Value := .object [("type", .str "service"),
  ("operations", .list [.object [("target", .str "depot#Store")]])]

private def storeShape : Value := .object [("type", .str "operation"),
  ("input", .object [("target", .str "depot#Item")]),
  ("traits", .object [("smithy.api#http", .object [("uri", .str "/items")])])]

private def itemShape : Value := .object [("type", .str "structure"),
  ("members", .object [("labels", .object [("target", .str "depot#Labels")])])]

private def labelsShape : Value := .object [("type", .str "list"),
  ("member", .object [("target", .str "smithy.api#String")])]

private def depotGraph : Graph := [(.str "depot#Depot", depotShape),
  (.str "depot#Store", storeShape), (.str "depot#Item", itemShape),
  (.str "depot#Labels", labelsShape)]

/-- The same shapes in another order, among others; one of these is a service, too. -/
private def yardGraph : Graph := [(.str "depot#Labels", labelsShape),
  (.str "yard#Yard", depotShape), (.str "depot#Item", itemShape), (.str "yard#Lost", .null),
  (.str "depot#Depot", depotShape), (.str "depot#Store", storeShape)]

private def depotSettings : Settings
  | .service => some "depot#Depot"
  | _ => none

private theorem depot_refers {r t : Ref} (refers : Refers depotGraph r t)
    (listed : r = ⟨"depot", "Item"⟩ ∨ r = ⟨"depot", "Labels"⟩) :
    t = ⟨"depot", "Labels"⟩ ∨ t = ⟨preludeScope, "String"⟩ := by
  obtain ⟨shape, denotes, m, member, targets⟩ := refers
  rcases listed with rfl | rfl <;> obtain rfl := Value.map.inj (Option.some.inj denotes.2)
  · obtain rfl : m = .map [(.str "target", .str "depot#Labels")] := List.mem_singleton.mp member
    exact .inl (targets.unique ⟨"depot#Labels", rfl, rfl⟩)
  · obtain rfl : m = .map [(.str "target", .str "smithy.api#String")] :=
      List.mem_singleton.mp member
    exact .inr (targets.unique ⟨"smithy.api#String", rfl, rfl⟩)

private theorem depot_reaches {r : Ref} (reaches : ReflTransGen (Refers depotGraph)
    ⟨"depot", "Item"⟩ r) :
    (r = ⟨"depot", "Item"⟩ ∨ r = ⟨"depot", "Labels"⟩) ∨ r = ⟨preludeScope, "String"⟩ := by
  induction reaches with
  | refl => exact .inl (.inl rfl)
  | tail _ refers ih =>
    rcases ih with listed | rfl
    · exact (depot_refers refers listed).imp_left .inr
    · obtain ⟨_, denotes, _⟩ := refers
      exact absurd rfl denotes.1

private theorem depot_consulted {name : String}
    (consulted : Consulted depotGraph "depot#Depot" name) :
    name ∈ ["depot#Depot", "depot#Store", "depot#Item", "depot#Labels", "smithy.api#String"] := by
  have store {shape : Entries} {listed : List Value} {entry : Value} {r : Ref}
      (found : depotGraph.get? "depot#Depot" = some (.map shape)) (lists : ListsAll shape listed)
      (member : entry ∈ listed) (targets : Targets entry r) : r = ⟨"depot", "Store"⟩ := by
    obtain rfl := Value.map.inj (Option.some.inj found)
    obtain rfl : [.object [("target", .str "depot#Store")]] = listed := Except.ok.inj lists
    obtain rfl := List.mem_singleton.mp member
    exact targets.unique ⟨"depot#Store", rfl, rfl⟩
  cases consulted with
  | service => decide
  | operation found lists member targets =>
    rw [store found lists member targets]
    decide
  | exchanged found lists member targets denoted exchanges reaches =>
    rw [store found lists member targets] at denoted
    obtain rfl := Value.map.inj (Option.some.inj denoted)
    rcases exchanges with input | output
    · obtain rfl : Ref.mk "depot" "Item" = _ := Option.some.inj (Except.ok.inj input)
      rcases depot_reaches reaches with (rfl | rfl) | rfl <;> decide
    · exact absurd (show Except.ok none = _ from output) (by simp)

private def depot : Value := .object [("shapes", .map depotGraph)]

private def depotInYard : Value := .object [("smithy", .str "2.0"), ("shapes", .map yardGraph),
  ("metadata", .list [.null])]

/-- A depot compiles alike from a model with other shapes around it. -/
theorem compile_local_depot :
    shapesOf depot = .ok (.map depotGraph) ∧ shapesOf depotInYard = .ok (.map yardGraph)
      ∧ depotSettings.given? .service = some "depot#Depot"
      ∧ (∀ name, Consulted depotGraph "depot#Depot" name →
        depotGraph.get? name = yardGraph.get? name)
      ∧ ∃ c, compile depot depotSettings ⟨"client", "1", none⟩ none = .ok c
        ∧ compile depotInYard depotSettings ⟨"client", "1", none⟩ none = .ok c := by
  have shaped : shapesOf depot = .ok (.map depotGraph) := rfl
  have shapedInYard : shapesOf depotInYard = .ok (.map yardGraph) := rfl
  have given : depotSettings.given? .service = some "depot#Depot" := rfl
  have agree : ∀ name, Consulted depotGraph "depot#Depot" name →
      depotGraph.get? name = yardGraph.get? name := by
    intro name consulted
    have member := depot_consulted consulted
    simp only [List.mem_cons, List.not_mem_nil, or_false] at member
    rcases member with rfl | rfl | rfl | rfl | rfl <;> rfl
  obtain ⟨c, compiled⟩ : ∃ c, compile depot depotSettings ⟨"client", "1", none⟩ none = .ok c :=
    ⟨_, rfl⟩
  have same := compile_local shaped shapedInYard given agree ⟨"client", "1", none⟩ none
  exact ⟨shaped, shapedInYard, given, agree, c, compiled, same.symm.trans compiled⟩

end Compile

/-! ### A service that grows

A package whose service grows. Main statement: a package is a frame with the texts of its commands,
each made from its own operation and the names of those before it; when more operations are listed
at the end of the service, the frame stays and the texts of the new commands follow the others.
-/

open ServiceCli.Command ServiceCli.Source

/-- A package is a frame with one command for each operation. The text of a command is made from the
operation, from whether it needs a token, from the command of the package and from the names of the
operations before it. -/
structure Compiled.ConsistsOf (c : Compiled) (f : Frame) (policy : AuthPolicy)
    (commands : List String) : Prop where
  files : c.files = f.files (c.service.operations.map Operation.name) commands
  length : commands.length = c.service.operations.length
  each : ∀ before op after, c.service.operations = before ++ op :: after →
    ∃ text, commands[before.length]? = some text ∧
      commandText c.command (before.map Operation.name) op (policy op) = .ok text

section Growth

variable {model grown : Value} {settings : Settings} {client : Client}
variable {policy : Option AuthPolicy} {c : Compiled} {id : String} {more : List Value}

theorem consistsOf_plans {p : AuthPolicy} {plans : List Plan}
    (planned : plansOf c.command p c.service.operations = .ok plans)
    (files : c.files = filesOf (metaOf c.service settings client c.command) plans) :
    c.ConsistsOf (frameOf (metaOf c.service settings client c.command)) p
      ((commandSources (metaOf c.service settings client c.command) plans).map textOf) := by
  refine ⟨?_, ?_, ?_⟩
  · rw [files, filesOf_eq, plansOf_names planned]
  · rw [List.length_map, commandSources_length, plansOf_length planned]
  · intro before op after split
    rw [split] at planned
    exact commandSources_commandText planned

theorem chosenService_grown (chosen : chosenService model settings = .ok id)
    (grows : Grows model grown id more) {s : Service} (read : extract model id = .ok s)
    {other : String} (also : chosenService grown settings = .ok other) : other = id := by
  rw [chosenService] at chosen also
  cases given : settings.given? .service with
  | some name =>
    rw [given] at chosen also
    exact (Except.ok.inj also).symm.trans (Except.ok.inj chosen)
  | none =>
    rw [given] at also
    exact grows.only read also

/-- A package consists of a frame and of commands that depend on nothing after them. If the service
lists more operations at the end, and there is a package of it again, the frame and the commands are
still there, each in its place, and one more command follows for each entry that was added. -/
theorem compile_grown (compiled : compile model settings client policy = .ok c) :
    ∃ commands, c.ConsistsOf (frameOf (metaOf c.service settings client c.command))
        (policy.getD (bearerAuth c.service)) commands ∧
      ∀ grown id more c', chosenService model settings = .ok id → Grows model grown id more →
        compile grown settings client policy = .ok c' →
        ∃ operations later, operations.length = more.length ∧
          c'.command = c.command ∧
          c'.service = { c.service with operations := c.service.operations ++ operations } ∧
          c'.ConsistsOf (frameOf (metaOf c.service settings client c.command))
            (policy.getD (bearerAuth c.service)) (commands ++ later) := by
  obtain ⟨id, plans, chosen, read, named, planned, files⟩ := compile_eq_ok compiled
  refine ⟨_, consistsOf_plans planned files, ?_⟩
  intro grown _ more c' chosen' grows compiledGrown
  obtain rfl := Except.ok.inj (chosen.symm.trans chosen')
  obtain ⟨other, all, chosenGrown, readGrown, namedGrown, plannedGrown, filesGrown⟩ :=
    compile_eq_ok compiledGrown
  obtain rfl := chosenService_grown chosen grows read chosenGrown
  obtain ⟨operations, length, service⟩ := grows.extracted read readGrown
  -- what the package says about itself and who decides on tokens do not depend on the operations
  have command : c'.command = c.command := by
    have chosen : chosenCommand c'.service settings = chosenCommand c.service settings := by
      rw [service]
      rfl
    exact Except.ok.inj (namedGrown.symm.trans (chosen.trans named))
  have about : metaOf c'.service settings client c'.command
      = metaOf c.service settings client c.command := by
    rw [service, command]
    rfl
  have verdicts : bearerAuth c'.service = bearerAuth c.service := by
    rw [service]
    rfl
  have consists := consistsOf_plans plannedGrown filesGrown
  rw [about, verdicts] at consists
  rw [verdicts, command, service] at plannedGrown
  obtain ⟨first, others, plannedFirst, -, rfl⟩ := plansOf_append.mp plannedGrown
  obtain rfl := Except.ok.inj (planned.symm.trans plannedFirst)
  rw [commandSources_append, List.map_append] at consists
  exact ⟨operations, _, length, command, service, consists⟩

private def shelfShape (listed : List String) : Entries := [(.str "type", .str "service"),
  (.str "operations", .list (listed.map fun id => .object [("target", .str id)]))]

private def shelfOperation (parts : List (String × Value)) : Value :=
  .object (parts ++ [("type", .str "operation"),
    ("traits", .object [("smithy.api#http", .object [("uri", .str "/books")])])])

/-- A shelf with operations whose names have the same identifier. -/
private def shelfGraph (listed : List String) : Graph := [
  (.str "shelf#Shelf", .map (shelfShape listed)),
  (.str "shelf#GetBook", shelfOperation [("input", .object [("target", .str "shelf#Book")])]),
  (.str "shelf#Get_Book", shelfOperation []), (.str "shelf#getBook", shelfOperation []),
  (.str "shelf#Book", .object [("type", .str "structure"),
    ("members", .object [("title", .object [("target", .str "smithy.api#String")])])])]

private def shelf (listed : List String) : Value := .object [("shapes", .map (shelfGraph listed))]

private def unset : Settings := fun _ => none

private def shelfClient : Client := ⟨"client", "1", none⟩

private def two : List String := ["shelf#GetBook", "shelf#Get_Book"]

private def three : List String := two ++ ["shelf#getBook"]

private def added : List Value := [.object [("target", .str "shelf#getBook")]]

private theorem shelf_grows : Grows (shelf two) (shelf three) "shelf#Shelf" added := by
  have lists : ListsAll (shelfShape two) (two.map fun id => .object [("target", .str id)]) := rfl
  have found : (shelfGraph two).get? "shelf#Shelf" = some (.map (shelfShape two)) := rfl
  have none_fresh : ∀ name, Consulted (shelfGraph two) "shelf#Shelf" name →
      (shelfGraph two).get? name = none → Entries.get? [] name = none := fun _ _ _ => rfl
  exact ⟨_, _, _, _, _, rfl, rfl, growsAt_put found lists added none_fresh⟩

/-- The function of a third operation gets a name that the others leave free. -/
theorem compile_grown_shelf : ∃ c c' f p commands later,
    compile (shelf two) unset shelfClient none = .ok c ∧
    chosenService (shelf two) unset = .ok "shelf#Shelf" ∧
    Grows (shelf two) (shelf three) "shelf#Shelf" added ∧
    compile (shelf three) unset shelfClient none = .ok c' ∧
    c.ConsistsOf f p commands ∧ c'.ConsistsOf f p (commands ++ later) ∧ commands.length = 2 ∧
    later.length = 1 ∧
    functionNameAfter ["GetBook", "Get_Book"] "getBook" = "get_book_command__" := by
  obtain ⟨c, compiled, listed⟩ : ∃ c, compile (shelf two) unset shelfClient none = .ok c
      ∧ c.service.operations.map Operation.name = ["GetBook", "Get_Book"] := ⟨_, rfl, rfl⟩
  obtain ⟨c', also⟩ : ∃ c', compile (shelf three) unset shelfClient none = .ok c' := ⟨_, rfl⟩
  have chosen : chosenService (shelf two) unset = .ok "shelf#Shelf" := rfl
  obtain ⟨commands, consists, growing⟩ := compile_grown compiled
  obtain ⟨operations, later, one, -, service, alsoConsists⟩ :=
    growing _ _ _ _ chosen shelf_grows also
  have length : commands.length = 2 := by
    rw [consists.length, ← List.length_map (f := Operation.name), listed]
    rfl
  have all : commands.length + later.length = 2 + 1 := by
    rw [← List.length_append, alsoConsists.length, service, List.length_append, ← consists.length,
      length, one]
    rfl
  exact ⟨c, c', _, _, commands, later, compiled, chosen, shelf_grows, also, consists, alsoConsists,
    length, by omega, rfl⟩

end Growth

end ServiceCli.Package
