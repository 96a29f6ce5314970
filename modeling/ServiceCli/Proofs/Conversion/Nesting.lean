import ServiceCli.Proofs.Conversion.Script
import ServiceCli.Proofs.Conversion.Wording

/-!
The nesting of converting lines. A line uses the variables of the loops that its place is inside of,
and those are the loops that enclose it; the body of a test or a loop is there because a blob or a
document can be reached. Main statement: converting lines are well nested, and they call a
converting function once for each blob and each document, in their order.
-/

set_option autoImplicit false
set_option relaxedAutoImplicit false

namespace ServiceCli.Conversion

open ServiceCli.Path ServiceCli.Path.AccessPath ServiceCli.Script ServiceCli.Shape ServiceCli.Text

def converters : List String :=
  [Converter.blob false, Converter.blob true, Converter.document].map Converter.function

mutual
/-- The places of the blobs and documents within a value at a place, depth first. The key of a map
is not entered. -/
def specialsOf (steps : FieldPath) : TypeTree → List (FieldPath × Converter)
  | .primitive _ => []
  | .blob streaming => [(steps, .blob streaming)]
  | .document => [(steps, .document)]
  | .structure members => specialsAmong steps members
  | .list member => specialsOf steps.element member
  | .map _ ⟨_, value, _, _, _⟩ => specialsOf steps.value value
/-- The places of the blobs and documents among the members of the mapping at a place. -/
def specialsAmong (steps : FieldPath) : List Field → List (FieldPath × Converter)
  | [] => []
  | ⟨name, type, _, _, _⟩ :: rest =>
    specialsOf (steps.member name) type ++ specialsAmong steps rest
end

/-- The statement on a line that calls converting functions, with the functions that it calls. -/
def calling? (line : String) : Option (String × List String) :=
  let calls := (spokenIn line.toList).filter converters.contains
  if calls.isEmpty then none else some (String.ofList (unindented line.toList), calls)

def callOf (special : FieldPath × Converter) : String × List String :=
  (storing (walk treeName special.1) special.2, [special.2.function])

section Idle

variable {bound words others : List String}

/-- Words among which are no loop variables but those bound, and no converting function. -/
def AreIdle (bound words : List String) : Prop :=
  ∀ word ∈ words, (isLoopVariable word = true → word ∈ bound) ∧ word ∉ converters

theorem AreIdle.append (idle : AreIdle bound words) (also : AreIdle bound others) :
    AreIdle bound (words ++ others) := List.forall_mem_append.mpr ⟨idle, also⟩

theorem areIdle_of_all
    (all : words.all (fun word => !isLoopVariable word && !converters.contains word) = true) :
    AreIdle bound words := by
  intro word member
  have plain := List.all_eq_true.mp all word member
  simp only [Bool.and_eq_true, Bool.not_eq_true', List.contains_eq_mem, decide_eq_false_iff_not]
    at plain
  exact ⟨fun loop => absurd (loop.symm.trans plain.1) (by decide), plain.2⟩

theorem AreIdle.uses (idle : AreIdle bound words) : words.filter isLoopVariable ⊆ bound := by
  intro word member
  obtain ⟨among, loop⟩ := List.mem_filter.mp member
  exact (idle word among).1 loop

theorem AreIdle.calls (idle : AreIdle bound words) : words.filter converters.contains = [] := by
  rw [List.filter_eq_nil_iff]
  intro word member
  simpa using (idle word member).2

private theorem isLoopVariable_of_digits {name : String} {c : Char} {n : Nat}
    (spelt : name.toList = c :: Nat.toDigits 10 n) (letter : (c == 'i' || c == 'k') = true) :
    isLoopVariable name = true := by
  have digits : (Nat.toDigits 10 n).all Char.isDigit = true := List.all_eq_true.mpr fun _ digit =>
    Nat.isDigit_of_mem_toDigits (by decide) (by decide) digit
  have filled : (Nat.toDigits 10 n).isEmpty = false := by simp
  simp [isLoopVariable, spelt, letter, digits, filled]

theorem isLoopVariable_indexVariable (n : Nat) : isLoopVariable (indexVariable n) = true :=
  isLoopVariable_of_digits (indexVariable_toList n) rfl

theorem isLoopVariable_keyVariable (n : Nat) : isLoopVariable (keyVariable n) = true :=
  isLoopVariable_of_digits (keyVariable_toList n) rfl

theorem not_converter {name : String} (loop : isLoopVariable name = true) : name ∉ converters := by
  intro member
  have others : ∀ word ∈ converters, isLoopVariable word = false := by decide
  rw [others name member] at loop
  exact absurd loop (by decide)

theorem mem_loopsOf {p : AccessPath} {name : String} (member : name ∈ loopsOf p) :
    ∃ j < p.label.countP isLoop, name = indexVariable j ∨ name = keyVariable j := by
  obtain ⟨s, among, held⟩ := List.mem_filterMap.mp member
  cases s with
  | text other => exact absurd held (by simp [heldIn?])
  | held other =>
    rw [← Option.some.inj held]
    simpa using held_subscriptsFrom among

theorem isLoopVariable_of_mem {p : AccessPath} {name : String} (member : name ∈ loopsOf p) :
    isLoopVariable name = true := by
  obtain ⟨j, -, rfl | rfl⟩ := mem_loopsOf member
  · exact isLoopVariable_indexVariable j
  · exact isLoopVariable_keyVariable j

theorem areIdle_expression {p : AccessPath} (within : loopsOf p ⊆ bound) :
    AreIdle bound (treeName :: loopsOf p) := by
  have tree : AreIdle bound [treeName] := areIdle_of_all (by decide)
  refine tree.append fun word member => ⟨fun _ => within member, ?_⟩
  exact not_converter (isLoopVariable_of_mem member)

theorem areIdle_probe {probe : Probe} (within : loopsOf probe.source ⊆ bound) :
    AreIdle bound probe.words := by
  cases probe with
  | place path => exact (areIdle_expression within).append (areIdle_of_all rfl)
  | lookup parent name =>
    have get : AreIdle bound ["get"] := areIdle_of_all (by decide)
    exact (areIdle_expression within).append get

end Idle

section Nests

variable {bound words lines others : List String} {binds : Option String} {text : String}
  {calls further : List (String × List String)}

/-- A line that opens a block inside the given loops: it uses their variables only, and it may bind
one of its own. -/
structure OpensBlock (bound : List String) (binds : Option String) (text : String) : Prop where
  shape : ∃ uses ⊆ bound, LineShape.of text = ⟨0, true, binds, uses⟩
  quiet : calling? text = none

theorem calling?_eq_none (line : IsLine text true words)
    (idle : words.filter converters.contains = []) : calling? text = none := by
  rw [calling?, line.spoken, idle]
  rfl

theorem opens_test (line : IsLine text true ("if" :: words)) (idle : AreIdle bound words) :
    OpensBlock bound none text := by
  have test : AreIdle bound ["if"] := areIdle_of_all (by decide)
  exact ⟨⟨_, (test.append idle).uses, line.shape⟩, calling?_eq_none line (test.append idle).calls⟩

theorem opens_loop {name : String} (line : IsLine text true ("for" :: name :: words))
    (loop : isLoopVariable name = true) (idle : AreIdle bound words) :
    OpensBlock bound (some name) text := by
  have head : AreIdle [name] ["for", name] := by
    intro word member
    rcases List.mem_cons.mp member with rfl | member
    · exact areIdle_of_all (by decide) _ (List.mem_singleton_self _)
    · exact ⟨fun _ => member, List.mem_singleton.mp member ▸ not_converter loop⟩
  refine ⟨⟨_, idle.uses, line.shape⟩, calling?_eq_none line ?_⟩
  have parts : "for" :: name :: words = ["for", name] ++ words := rfl
  rw [parts, List.filter_append, head.calls, idle.calls]
  rfl

/-- Lines that are a block at the margin inside the given loops, and whose calls are the given
ones. -/
structure Nests (bound : List String) (calls : List (String × List String)) (lines : List String) :
    Prop where
  block : IsBlock 0 bound (lines.map .of)
  calls : lines.filterMap calling? = calls

theorem Nests.nil : Nests bound [] [] := ⟨.nil, rfl⟩

theorem Nests.append (nests : Nests bound calls lines) (also : Nests bound further others) :
    Nests bound (calls ++ further) (lines ++ others) := by
  refine ⟨?_, ?_⟩
  · rw [List.map_append]
    exact nests.block.append also.block
  · rw [List.filterMap_append, nests.calls, also.calls]

theorem calling?_indented (text : String) : calling? ("    " ++ text) = calling? text := by
  rw [calling?, calling?, spokenIn_indented, toList_indented, unindented_append]

theorem Nests.opened (opens : OpensBlock bound binds text) (fresh : ∀ name ∈ binds, name ∉ bound)
    (filled : lines ≠ []) (nests : Nests (binds.toList ++ bound) calls lines) :
    Nests bound calls (text :: indent lines) := by
  obtain ⟨uses, within, shape⟩ := opens.shape
  have further : (indent lines).map LineShape.of = (lines.map .of).map LineShape.further := by
    simp only [indent, List.map_map, Function.comp_def, LineShape.of_indented]
  have called : (indent lines).filterMap calling? = lines.filterMap calling? := by
    simp only [indent, List.filterMap_map, Function.comp_def, calling?_indented]
  refine ⟨?_, ?_⟩
  · have block : IsBlock 0 bound (.of text :: ((indent lines).map .of ++ [])) := by
      rw [shape, further]
      exact .opening rfl rfl fresh within (by simpa using filled) nests.block.further .nil
    rwa [List.append_nil] at block
  · rw [List.filterMap_cons, opens.quiet, called, nests.calls]

theorem nests_storing {target : AccessPath} (passes : Passes IsUnbroken target)
    (within : loopsOf target ⊆ bound) (converter : Converter) :
    Nests bound [callOf (target.label, converter)] [storing target converter] := by
  have line := isLine_storing passes converter
  have idle : AreIdle bound (treeName :: loopsOf target) := areIdle_expression within
  have place : walk treeName target.label = target := passes.root ▸ passes.inStep.eq_walk
  have noLoop : ["rt", converter.function].filter isLoopVariable = [] := by
    cases converter with
    | blob streaming => cases streaming <;> decide
    | document => decide
  have oneCall : ["rt", converter.function].filter converters.contains = [converter.function] := by
    cases converter with
    | blob streaming => cases streaming <;> decide
    | document => decide
  refine ⟨?_, ?_⟩
  · have uses : (treeName :: loopsOf target
        ++ (["rt", converter.function] ++ treeName :: loopsOf target)).filter isLoopVariable
        ⊆ bound := by
      rw [List.filter_append, List.filter_append, noLoop]
      exact List.append_subset.mpr ⟨idle.uses, idle.uses⟩
    rw [List.map_singleton, line.shape]
    exact .plain rfl rfl rfl uses .nil
  · rw [List.filterMap_cons, calling?, line.spoken, List.filter_append, List.filter_append,
      idle.calls, oneCall, unindented_solid line.solid, String.ofList_toList, callOf, place]
    rfl

end Nests

/-- A probe of a place reads from inside the loops around the place. -/
structure Probe.Reads (probe : Probe) (target : AccessPath) : Prop where
  rooted : Rooted probe.source
  loops : loopsOf probe.source = loopsOf target

theorem Probe.Reads.place {target : AccessPath} (rooted : Rooted target) :
    (Probe.place target).Reads target := ⟨rooted, rfl⟩

theorem Probe.Reads.lookup {parent : AccessPath} (rooted : Rooted parent) (name : String) :
    (Probe.lookup parent name).Reads (parent.key name) := ⟨rooted, (loopsOf_key parent name).symm⟩

section Statements

variable {probe : Probe} {target : AccessPath} {bound : List String} {body : List Statement}
  {calls : List (String × List String)}

theorem nests_convertBlob (reads : probe.Reads target) (passes : Passes IsUnbroken target)
    (within : loopsOf target ⊆ bound) (streaming : Bool) :
    Nests bound [callOf (target.label, .blob streaming)]
      (Statement.convertBlob probe target streaming).lines := by
  have idle : AreIdle bound (probe.words ++ ["is", "not", "None"]) :=
    (areIdle_probe (reads.loops.symm ▸ within)).append (areIdle_of_all (by decide))
  have store : "    " ++ target.expression ++ " = "
      ++ (if streaming then "rt.stream_blob" else "rt.read_blob") ++ "(" ++ target.expression
      ++ ", " ++ quoteLabel target.label.text ++ ")"
      = "    " ++ storing target (.blob streaming) := by
    simp only [storing, String.append_assoc]
  rw [Statement.lines, store]
  exact .opened (opens_test (isLine_given reads.rooted) idle) (by simp) (List.cons_ne_nil _ _)
    (nests_storing passes within (.blob streaming))

theorem nests_convertDocument (reads : probe.Reads target) (passes : Passes IsUnbroken target)
    (within : loopsOf target ⊆ bound) :
    Nests bound [callOf (target.label, .document)]
      (Statement.convertDocument probe target).lines := by
  have kept : AreIdle bound ["is", "not", "None", "and", "not", "isinstance"] :=
    areIdle_of_all (by decide)
  have text : AreIdle bound ["str"] := areIdle_of_all (by decide)
  have idle := (areIdle_probe (reads.loops.symm ▸ within)).append
    (kept.append ((areIdle_expression within).append text))
  have store : "    " ++ target.expression ++ " = rt.serialize_document(" ++ target.expression
      ++ ")" = "    " ++ storing target .document := by
    simp only [storing, String.append_assoc]
  rw [Statement.lines, store]
  exact .opened (opens_test (isLine_document reads.rooted passes.toRooted) idle) (by simp)
    (List.cons_ne_nil _ _) (nests_storing passes within .document)

theorem opens_isKind (reads : probe.Reads target) (within : loopsOf target ⊆ bound) (kind : Kind)
    {ending : String} (spelt : ending = ", " ++ kind.word ++ "):") :
    OpensBlock bound none ("if isinstance(" ++ probe.expression ++ ending) := by
  have test : AreIdle bound ["isinstance"] := areIdle_of_all (by decide)
  have named : AreIdle bound [kind.word] := by cases kind <;> exact areIdle_of_all (by decide)
  rw [spelt]
  exact opens_test (isLine_isKind reads.rooted kind)
    (test.append ((areIdle_probe (reads.loops.symm ▸ within)).append named))

theorem nests_inStructure (reads : probe.Reads target) (within : loopsOf target ⊆ bound)
    (filled : linesOf body ≠ []) (inside : Nests bound calls (linesOf body)) :
    Nests bound calls (Statement.inStructure probe body).lines :=
  .opened (opens_isKind reads within .mapping rfl) (by simp) filled inside

theorem nests_looped {test head name : String} (tests : OpensBlock bound none test)
    (loops : OpensBlock bound (some name) head) (fresh : name ∉ bound) (filled : linesOf body ≠ [])
    (inside : Nests (name :: bound) calls (linesOf body)) :
    Nests bound calls (test :: ("    " ++ head) :: indent (indent (linesOf body))) :=
  .opened tests (by simp) (List.cons_ne_nil _ _)
    (.opened loops (by simpa using fresh) filled inside)

theorem nests_overList (reads : probe.Reads target) (rooted : Rooted target)
    (same : ∀ name, name ∈ bound ↔ name ∈ loopsOf target) (filled : linesOf body ≠ [])
    (inside : Nests (target.loopVariable :: bound) calls (linesOf body)) :
    Nests bound calls (Statement.overList probe target body).lines := by
  have within : loopsOf target ⊆ bound := fun name member => (same name).mpr member
  have fresh : target.loopVariable ∉ bound := fun member => by
    obtain ⟨j, less, again | again⟩ := mem_loopsOf ((same _).mp member)
    · exact absurd (indexVariable_inj.mp again) (Nat.ne_of_gt (rooted.inStep.depth ▸ less))
    · exact absurd again (indexVariable_ne_keyVariable _ _)
  have idle : AreIdle bound (["in", "range", "len"] ++ treeName :: loopsOf target) :=
    (areIdle_of_all (by decide)).append (areIdle_expression within)
  have loop := opens_loop (isLine_overIndices rooted) (isLoopVariable_indexVariable _) idle
  have spelt : "    for " ++ target.loopVariable ++ " in range(len(" ++ target.expression ++ ")):"
      = "    " ++ ("for " ++ target.loopVariable ++ " in range(len(" ++ target.expression
        ++ ")):") := by
    simp only [String.append_assoc]
    rfl
  rw [Statement.lines, spelt]
  exact nests_looped (opens_isKind reads within .list rfl) loop fresh filled inside

theorem nests_overMap (reads : probe.Reads target) (rooted : Rooted target)
    (same : ∀ name, name ∈ bound ↔ name ∈ loopsOf target) (filled : linesOf body ≠ [])
    (inside : Nests (target.mapVariable :: bound) calls (linesOf body)) :
    Nests bound calls (Statement.overMap probe target body).lines := by
  have within : loopsOf target ⊆ bound := fun name member => (same name).mpr member
  have fresh : target.mapVariable ∉ bound := fun member => by
    obtain ⟨j, less, again | again⟩ := mem_loopsOf ((same _).mp member)
    · exact absurd again.symm (indexVariable_ne_keyVariable _ _)
    · exact absurd (keyVariable_inj.mp again) (Nat.ne_of_gt (rooted.inStep.depth ▸ less))
  have idle : AreIdle bound (["in", "list"] ++ treeName :: loopsOf target) :=
    (areIdle_of_all (by decide)).append (areIdle_expression within)
  have loop := opens_loop (isLine_overMembers rooted) (isLoopVariable_keyVariable _) idle
  have spelt : "    for " ++ target.mapVariable ++ " in list(" ++ target.expression ++ "):"
      = "    " ++ ("for " ++ target.mapVariable ++ " in list(" ++ target.expression ++ "):") := by
    simp only [String.append_assoc]
    rfl
  rw [Statement.lines, spelt]
  exact nests_looped (opens_isKind reads within .mapping rfl) loop fresh filled inside

end Statements

mutual
theorem specialsOf_eq_nil : ∀ (type : TypeTree) (steps : FieldPath),
    specialsOf steps type = [] ↔ type.containsSpecial = false
  | .primitive _, _ => iff_of_true rfl rfl
  | .blob _, _ => iff_of_false (List.cons_ne_nil _ _) (by simp [TypeTree.containsSpecial])
  | .document, _ => iff_of_false (List.cons_ne_nil _ _) (by simp [TypeTree.containsSpecial])
  | .structure members, steps => specialsAmong_eq_nil members steps
  | .list member, steps => specialsOf_eq_nil member steps.element
  | .map _ ⟨_, value, _, _, _⟩, steps => specialsOf_eq_nil value steps.value
theorem specialsAmong_eq_nil : ∀ (fields : List Field) (steps : FieldPath),
    specialsAmong steps fields = [] ↔ TypeTree.anySpecial fields = false
  | [], _ => iff_of_true rfl rfl
  | ⟨name, type, _, _, _⟩ :: rest, steps => by
    rw [specialsAmong, List.append_eq_nil_iff, specialsOf_eq_nil type, specialsAmong_eq_nil rest,
      TypeTree.anySpecial, Bool.or_eq_false_iff]
end

mutual
theorem nests_ofType : ∀ (type : TypeTree) (target : AccessPath) (probe : Probe)
    (bound : List String), type.containsSpecial = true → type.NamesHave IsUnbroken →
    Passes IsUnbroken target → probe.Reads target → (∀ name, name ∈ bound ↔ name ∈ loopsOf target) →
    Nests bound ((specialsOf target.label type).map callOf) (linesOf (ofType target probe type))
  | .primitive _, _, _, _, special, _, _, _, _ =>
    absurd special (by simp [TypeTree.containsSpecial])
  | .blob streaming, target, probe, bound, _, _, passes, reads, same => by
    rw [ofType, linesOf_single]
    exact nests_convertBlob reads passes (fun name member => (same name).mpr member) streaming
  | .document, target, probe, bound, _, _, passes, reads, same => by
    rw [ofType, linesOf_single]
    exact nests_convertDocument reads passes fun name member => (same name).mpr member
  | .structure members, target, probe, bound, special, unbroken, passes, reads, same => by
    rw [ofType, linesOf_single]
    exact nests_inStructure reads (fun name member => (same name).mpr member)
      (linesOf_ne_nil (ofFields_ne_nil special target))
      (nests_ofFields members target bound unbroken passes same)
  | .list member, target, probe, bound, special, unbroken, passes, reads, same => by
    -- the variable that the loop binds is the one more that its elements use
    have inner : ∀ name, name ∈ target.loopVariable :: bound ↔ name ∈ loopsOf target.element := by
      simp [loopsOf_element passes.inStep, same, or_comm]
    have within : member.containsSpecial = true := special
    rw [ofType, linesOf_single]
    exact nests_overList reads passes.toRooted same (linesOf_ne_nil (ofType_ne_nil within _ _))
      (nests_ofType member target.element (.place target.element) _ within unbroken
        passes.element (.place passes.element.toRooted) inner)
  | .map _ ⟨_, value, _, _, _⟩, target, probe, bound, special, unbroken, passes, reads, same => by
    have inner : ∀ name, name ∈ target.mapVariable :: bound ↔ name ∈ loopsOf target.mapValue := by
      simp [loopsOf_mapValue passes.inStep, same, or_comm]
    have within : value.containsSpecial = true := special
    rw [ofType, linesOf_single]
    exact nests_overMap reads passes.toRooted same (linesOf_ne_nil (ofType_ne_nil within _ _))
      (nests_ofType value target.mapValue (.place target.mapValue) _ within unbroken
        passes.mapValue (.place passes.mapValue.toRooted) inner)
/-- The lines of members nest, and they call a converting function for each of their blobs and
documents. -/
theorem nests_ofFields : ∀ (fields : List Field) (root : AccessPath) (bound : List String),
    NamesHave IsUnbroken fields → Passes IsUnbroken root →
    (∀ name, name ∈ bound ↔ name ∈ loopsOf root) →
    Nests bound ((specialsAmong root.label fields).map callOf) (linesOf (ofFields root fields))
  | [], _, _, _, _, _ => .nil
  | ⟨name, type, _, _, _⟩ :: rest, root, bound, ⟨own, within, others⟩, passes, same => by
    rw [ofFields, linesOf_append, specialsAmong, List.map_append]
    refine .append ?_ (nests_ofFields rest root bound others passes same)
    cases special : type.containsSpecial with
    | true =>
      rw [if_pos rfl]
      refine nests_ofType type (root.key name) (.lookup root name) bound special within
        (passes.key own) (.lookup passes.toRooted name) ?_
      rwa [loopsOf_key]
    | false =>
      rw [(specialsOf_eq_nil type _).mpr special, if_neg (by simp)]
      exact .nil
end

/-- Converting lines are well nested. They call a converting function once for each blob and each
document that is reached without entering the key of a map, in their order, each on a line of its
own; and there are no lines where there is no blob and no document. -/
theorem lines_nested {fields : List Field} (unbroken : NamesHave IsUnbroken fields) :
    IsNested ((linesOf (ofFields (.ofRoot treeName) fields)).map LineShape.of)
      ∧ (linesOf (ofFields (.ofRoot treeName) fields)).filterMap calling?
        = (specialsAmong [] fields).map callOf
      ∧ (linesOf (ofFields (.ofRoot treeName) fields) = [] ↔ specialsAmong [] fields = []) := by
  have outside : ∀ name, name ∈ [] ↔ name ∈ loopsOf (.ofRoot treeName) := fun name => Iff.rfl
  have nests := nests_ofFields fields (.ofRoot treeName) [] unbroken .ofRoot outside
  refine ⟨nests.block.isNested, nests.calls, fun empty => ?_, fun none => ?_⟩
  · have noCalls := nests.calls
    rw [empty] at noCalls
    exact List.map_eq_nil_iff.mp noCalls.symm
  · rw [ofFields_eq_nil ((specialsAmong_eq_nil fields []).mp none), linesOf]

private def archiveFields : List Field := [
  ⟨"note: for i0 in \"x\"", .document, false, "", false⟩,
  ⟨"label", .primitive "string", true, "", false⟩,
  ⟨"shelves", .map ⟨"key", .primitive "string", false, "", false⟩
    ⟨"value", .list (.structure [⟨"sc#an", .blob true, false, "", false⟩,
      ⟨"pages", .list (.blob false), false, "", false⟩]), false, "", false⟩, false, "", false⟩]

/-- What a name looks like matters to neither the loops nor the calls. -/
theorem lines_nested_archive : NamesHave IsUnbroken archiveFields
    ∧ IsNested ((linesOf (ofFields (.ofRoot treeName) archiveFields)).map LineShape.of)
    ∧ (linesOf (ofFields (.ofRoot treeName) archiveFields)).filterMap calling? = [
      ("params[\"note: for i0 in \\\"x\\\"\"] = rt.serialize_document("
        ++ "params[\"note: for i0 in \\\"x\\\"\"])", ["serialize_document"]),
      ("params[\"shelves\"][k0][i1][\"sc#an\"] = rt.stream_blob("
        ++ "params[\"shelves\"][k0][i1][\"sc#an\"], \"shelves\x7bvalue\x7d[].sc#an\")",
        ["stream_blob"]),
      ("params[\"shelves\"][k0][i1][\"pages\"][i2] = rt.read_blob("
        ++ "params[\"shelves\"][k0][i1][\"pages\"][i2], \"shelves\x7bvalue\x7d[].pages[]\")",
        ["read_blob"])]
    ∧ linesOf (ofFields (.ofRoot treeName) archiveFields) ≠ [] := by
  have unbroken : NamesHave IsUnbroken archiveFields := by
    simp [archiveFields, NamesHave, TypeTree.NamesHave, IsUnbroken]
  obtain ⟨nested, calls, filled⟩ := lines_nested unbroken
  refine ⟨unbroken, nested, calls.trans (by decide), fun empty => ?_⟩
  exact absurd (filled.mp empty) (by simp [archiveFields, specialsAmong, specialsOf])

end ServiceCli.Conversion
