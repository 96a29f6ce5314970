import ServiceCli.Proofs.Conversion.Effect
import ServiceCli.Proofs.Data.JsonValue

set_option autoImplicit false
set_option relaxedAutoImplicit false

namespace ServiceCli.Conversion

open ServiceCli.Data ServiceCli.Files ServiceCli.Parameters ServiceCli.Path
open ServiceCli.Path.AccessPath ServiceCli.Script ServiceCli.Shape

/-- The values that a loop variable takes, each from its position and what stands there. -/
def turns {α : Type} (held : Nat → α → Value) : Nat → List α → List Value
  | _, [] => []
  | i, a :: rest => held i a :: turns held (i + 1) rest

theorem turns_index {α : Type} (items : List α) (start : Nat) :
    turns (fun i (_ : α) => .int (i : Int)) start items = indicesFrom start items.length := by
  induction items generalizing start with
  | nil => rfl
  | cons a items ih =>
    rw [turns, ih, indicesFrom, indicesFrom, List.length_cons, List.range'_succ, List.map_cons]

theorem turns_key (entries : Entries) (start : Nat) :
    turns (fun _ entry => valueOfKey entry.1) start entries
      = entries.map fun entry => valueOfKey entry.1 := by
  induction entries generalizing start with
  | nil => rfl
  | cons entry entries ih => rw [turns, ih, List.map_cons]

section Loop

variable {α : Type} {p : AccessPath} {steps : List Step} {name : String} {body : Memory → Left}

/-- A loop converts what it goes through, when each of its turns converts what it has come to.
The parts before and after that are what `Ready` relates. -/
theorem each_leaves (held : Nat → α → Value) (container : List α → Value)
    (convert : α → α × Option Failure) (Ready : List α → List α → Prop)
    (turn : ∀ before a rest m tree, Ready before (a :: rest) →
      Holds m p steps tree (container (before ++ a :: rest)) →
      Leaves p.root p.depth m (body (m.set name (held before.length a)))
        (putAt steps tree (container (before ++ (convert a).1 :: rest))) (convert a).2)
    (advance : ∀ before a rest, Ready before (a :: rest) →
      Ready (before ++ [(convert a).1]) rest)
    (rest before : List α) (m : Memory) (tree : Value) (ready : Ready before rest)
    (holds : Holds m p steps tree (container (before ++ rest))) :
    Leaves p.root p.depth m (each name body (turns held before.length rest) m)
      (putAt steps tree (container (before ++ (convertEach convert rest).1)))
      (convertEach convert rest).2 := by
  induction rest generalizing before m tree with
  | nil => exact holds.unchanged
  | cons a rest ih =>
    have first := turn before a rest m tree ready holds
    have after := holds.after first
    have later := advance before a rest ready
    rw [turns, each]
    rcases converted : convert a with ⟨b, failure⟩
    rw [converted] at first after later
    cases failure with
    | some e =>
      rw [convertEach_cons_error converted]
      exact first.stopped
    | none =>
      rw [convertEach_cons_ok converted]
      refine first.continued ?_
      have further := ih (before ++ [b]) _ _ later (by simpa using after)
      rw [putAt_putAt holds.value] at further
      simpa using further

end Loop

variable {files : System}

theorem blobCall_answer {m : Memory} {p : AccessPath} {steps : List Step} {tree v : Value}
    (holds : Holds m p steps tree v) (streaming : Bool) :
    (blobCall p streaming).answer files m = blobContent files streaming p.label v := by
  cases streaming with
  | false =>
    have call : blobCall p false = .readBlob (placeOf p) (FieldPath.text p.label) := rfl
    rw [call, Call.answer, holds.load, Outcome.ok_bind, readBlob_eq]
  | true =>
    have call : blobCall p true = .openBlob (placeOf p) (FieldPath.text p.label) := rfl
    rw [call, Call.answer, holds.load, Outcome.ok_bind, openBlob_eq]

section Commands

variable {m : Memory} {p : AccessPath} {steps : List Step} {tree v : Value} {r : Reader}

theorem run_store {call : Call} {w : Value} (free : IsTree p.root)
    (holds : Holds m p steps tree v) (answer : call.answer files m = .ok w) :
    Leaves p.root p.depth m (runAll files [.store (placeOf p) call] m) (putAt steps tree w)
      none := by
  rw [runAll_single, Command.run, answer, Outcome.ok_bind, holds.store w]
  exact ⟨Memory.set_same _ _ _, Keeps.set (fun j _ => free j) m _, rfl⟩

theorem run_store_error {call : Call} {e : Failure} (holds : Holds m p steps tree v)
    (answer : call.answer files m = .error e) :
    Leaves p.root p.depth m (runAll files [.store (placeOf p) call] m) (putAt steps tree v)
      (some e) := by
  rw [runAll_single, Command.run, answer]
  exact ⟨holds.unchanged.tree, holds.unchanged.keeps, rfl⟩

theorem holds_given (read : r.read m = .ok v) : (Check.given r).holds m = .ok (v != .null) := by
  rw [Check.holds, read]
  rfl

theorem holds_isKind (read : r.read m = .ok v) (kind : Kind) :
    (Check.isKind r kind).holds m = .ok (kind.holds v) := by
  rw [Check.holds, read]
  rfl

theorem holds_notKind (read : r.read m = .ok v) (kind : Kind) :
    (Check.notKind r kind).holds m = .ok (!kind.holds v) := by
  rw [Check.holds, read]
  rfl

theorem run_unless {check : Check} (fails : check.holds m = .ok false) (rest : List Check)
    (body : List Command) : runAll files [.block (.when (check :: rest)) body] m = ⟨m, none⟩ := by
  rw [runAll_single, Command.run, allHold, fails]
  rfl

theorem run_when {check : Check} (holds : check.holds m = .ok true) (rest : List Check)
    (body : List Command) :
    runAll files [.block (.when (check :: rest)) body] m
      = runAll files [.block (.when rest) body] m := by
  rw [runAll_single, runAll_single, Command.run, Command.run, allHold, holds]
  rfl

theorem run_body (body : List Command) :
    runAll files [.block (.when []) body] m = runAll files body m := by
  rw [runAll_single, Command.run]
  rfl

theorem run_of_null {probe : Probe} {target : AccessPath}
    (read : (readerOf probe).read m = .ok .null) (type : TypeTree) :
    runAll files (commandsOf (ofType target probe type)) m = ⟨m, none⟩ := by
  have absent : (Check.given (readerOf probe)).holds m = .ok false := by
    rw [holds_given read]
    simp
  cases type with
  | primitive kind => rfl
  | blob streaming => exact run_unless absent [] _
  | document => exact run_unless absent _ _
  | «structure» members => exact run_unless (holds_isKind read .mapping) [] _
  | list member => exact run_unless (holds_isKind read .list) [] _
  | map key value =>
    cases value
    exact run_unless (holds_isKind read .mapping) [] _

end Commands

section Types

variable {m : Memory} {p : AccessPath} {steps : List Step} {tree v : Value} {probe : Probe}

theorem run_blob (free : IsTree p.root) (holds : Holds m p steps tree v)
    (read : (readerOf probe).read m = .ok v) (streaming : Bool) :
    Leaves p.root p.depth m (runAll files (commandsOf (ofType p probe (.blob streaming))) m)
      (putAt steps tree (convertValue files p.label (.blob streaming) v).1)
      (convertValue files p.label (.blob streaming) v).2 := by
  by_cases null : v = .null
  · subst null
    rw [run_of_null read, convertValue, if_pos rfl]
    exact holds.unchanged
  · have given : (Check.given (readerOf probe)).holds m = .ok true := by
      rw [holds_given read]
      simpa using null
    have answer : (blobCall p streaming).answer files m = blobContent files streaming p.label v :=
      blobCall_answer holds streaming
    rw [ofType, commandsOf, commandsOf, commandOf, run_when given, run_body, convertValue,
      if_neg null]
    cases content : blobContent files streaming p.label v with
    | ok w =>
      rw [content] at answer
      exact run_store free holds answer
    | error e =>
      rw [content] at answer
      exact run_store_error holds answer

theorem run_document (free : IsTree p.root) (holds : Holds m p steps tree v)
    (read : (readerOf probe).read m = .ok v) (json : v.IsJson) :
    Leaves p.root p.depth m (runAll files (commandsOf (ofType p probe .document)) m)
      (putAt steps tree (convertValue files p.label .document v).1)
      (convertValue files p.label .document v).2 := by
  have text_or : (∃ s, v = .str s) ∨ Kind.text.holds v = false := by
    cases v with
    | atom a =>
      cases a with
      | str s => exact .inl ⟨s, rfl⟩
      | _ => exact .inr rfl
    | _ => exact .inr rfl
  have again : (Reader.place (placeOf p)).read m = .ok v := holds.load
  by_cases null : v = .null
  · subst null
    rw [run_of_null read]
    exact holds.unchanged
  · have given : (Check.given (readerOf probe)).holds m = .ok true := by
      rw [holds_given read]
      simpa using null
    rw [ofType, commandsOf, commandsOf, commandOf, run_when given]
    rcases text_or with ⟨s, rfl⟩ | other
    · rw [run_unless (holds_notKind again .text)]
      exact holds.unchanged
    · have untexted : (Check.notKind (.place (placeOf p)) .text).holds m = .ok true := by
        rw [holds_notKind again, other]
        rfl
      obtain ⟨text, printed⟩ := json.print
      have answer : (Call.serialize (placeOf p)).answer files m = .ok (.str text) := by
        rw [Call.answer, holds.load, Outcome.ok_bind, serialize, printed]
      have converted : convertValue files p.label .document v = (.str text, none) := by
        rw [convertValue]
        · rw [printed]
        · exact null
        · rintro s rfl
          exact absurd other (by simp [Kind.holds])
      rw [run_when untexted, run_body, converted]
      exact run_store free holds answer

theorem Holds.enter_list {before rest : List Value} (free : IsTree p.root)
    (holds : Holds m p steps tree (.list (before ++ v :: rest))) :
    Holds (m.set p.loopVariable (.int before.length)) p.element (steps ++ [.index before.length])
        tree v
      ∧ Keeps p.depth m (m.set p.loopVariable (.int before.length)) := by
  have place : position (before ++ v :: rest).length (before.length : Int) = before.length := by
    rw [position, if_neg (by omega), Int.toNat_natCast]
  have found := inner_index place
  have keeps : Keeps p.depth m (m.set p.loopVariable (.int before.length)) :=
    Keeps.set (fun j small => ⟨fun same => Nat.ne_of_gt small (indexVariable_inj.mp same),
      indexVariable_ne_keyVariable _ _⟩) m _
  have entered := holds.enter holds.inStep.element rfl (placeOf_element holds.inStep)
    (free p.depth).1 keeps rfl found
  exact ⟨entered, keeps⟩

theorem run_turn_list {body : Memory → Left} {before rest : List Value} {w : Value}
    {failure : Option Failure} (free : IsTree p.root)
    (holds : Holds m p steps tree (.list (before ++ v :: rest)))
    (inside : ∀ m', Holds m' p.element (steps ++ [.index before.length]) tree v →
      Leaves p.element.root p.element.depth m' (body m')
        (putAt (steps ++ [.index before.length]) tree w) failure) :
    Leaves p.root p.depth m (body (m.set p.loopVariable (.int before.length)))
      (putAt steps tree (.list (before ++ w :: rest))) failure := by
  have place : position (before ++ v :: rest).length (before.length : Int) = before.length := by
    rw [position, if_neg (by omega), Int.toNat_natCast]
  obtain ⟨entered, keeps⟩ := holds.enter_list free
  have left := inside _ entered
  rw [putAt_append holds.value (inner_index place), replaceInner_index place] at left
  exact left.leave (Nat.le_succ p.depth) keeps

theorem Holds.enter_map {before rest : Entries} {name : String} (free : IsTree p.root)
    (absent : ∀ entry ∈ before, entry.1 ≠ .str name)
    (holds : Holds m p steps tree (.map (before ++ (.str name, v) :: rest))) :
    Holds (m.set p.mapVariable (.str name)) p.mapValue (steps ++ [.key name]) tree v
      ∧ Keeps p.depth m (m.set p.mapVariable (.str name)) := by
  have found : inner (.map (before ++ (.str name, v) :: rest)) (.key name) = .ok v :=
    inner_key absent
  have keeps : Keeps p.depth m (m.set p.mapVariable (.str name)) :=
    Keeps.set (fun j small => ⟨(indexVariable_ne_keyVariable _ _).symm,
      fun same => Nat.ne_of_gt small (keyVariable_inj.mp same)⟩) m _
  have entered := holds.enter holds.inStep.mapValue rfl (placeOf_mapValue holds.inStep)
    (free p.depth).2 keeps rfl found
  exact ⟨entered, keeps⟩

theorem run_turn_map {body : Memory → Left} {before rest : Entries} {name : String} {w : Value}
    {failure : Option Failure} (free : IsTree p.root)
    (absent : ∀ entry ∈ before, entry.1 ≠ .str name)
    (holds : Holds m p steps tree (.map (before ++ (.str name, v) :: rest)))
    (inside : ∀ m', Holds m' p.mapValue (steps ++ [.key name]) tree v →
      Leaves p.mapValue.root p.mapValue.depth m' (body m')
        (putAt (steps ++ [.key name]) tree w) failure) :
    Leaves p.root p.depth m (body (m.set p.mapVariable (.str name)))
      (putAt steps tree (.map (before ++ (.str name, w) :: rest))) failure := by
  have found : inner (.map (before ++ (.str name, v) :: rest)) (.key name) = .ok v :=
    inner_key absent
  obtain ⟨entered, keeps⟩ := holds.enter_map free absent
  have left := inside _ entered
  rw [putAt_append holds.value found, replaceInner_key absent] at left
  exact left.leave (Nat.le_succ p.depth) keeps

end Types

/-- The running of the statements of a type, as its own statement: wherever a value of the type
stands, it is converted there. -/
def Runs (files : System) (type : TypeTree) : Prop :=
  ∀ (p : AccessPath) (probe : Probe) (m : Memory) (steps : List Step) (tree v : Value),
    IsTree p.root → Holds m p steps tree v → (readerOf probe).read m = .ok v → v.IsJson →
    Leaves p.root p.depth m (runAll files (commandsOf (ofType p probe type)) m)
      (putAt steps tree (convertValue files p.label type v).1)
      (convertValue files p.label type v).2

/-- The running of the statements of the members of a structure. -/
def RunAll (files : System) (fields : List Field) : Prop :=
  ∀ (p : AccessPath) (m : Memory) (steps : List Step) (tree : Value) (entries : Entries),
    IsTree p.root → Holds m p steps tree (.map entries) →
    (∀ f ∈ fields, ∀ v, entries.get? f.name = some v → v.IsJson) →
    Leaves p.root p.depth m (runAll files (commandsOf (ofFields p fields)) m)
      (putAt steps tree (.map (convertFields files p.label fields entries).1))
      (convertFields files p.label fields entries).2

theorem turn_list {member : TypeTree} (runs : Runs files member) {p : AccessPath}
    {steps : List Step} (free : IsTree p.root) (before : List Value) (a : Value)
    (rest : List Value) (m : Memory) (tree : Value) (ready : ItemsJson (a :: rest))
    (holds : Holds m p steps tree (.list (before ++ a :: rest))) :
    Leaves p.root p.depth m
      (runAll files (commandsOf (ofType p.element (.place p.element) member))
        (m.set p.loopVariable (.int (before.length : Int))))
      (putAt steps tree (.list (before ++ (convertValue files p.element.label member a).1 :: rest)))
      (convertValue files p.element.label member a).2 := by
  refine run_turn_list free holds fun m' entered => ?_
  exact runs p.element (.place p.element) m' _ tree a free entered entered.load ready.1

theorem runs_list {member : TypeTree} (runs : Runs files member) : Runs files (.list member) := by
  intro p probe m steps tree v free holds read json
  rw [ofType, commandsOf, commandsOf, commandOf]
  cases v with
  | list items =>
    rw [run_when (holds_isKind read .list), run_body, runAll_single, Command.run, holds.load]
    have loop := each_leaves (fun i _ => .int (i : Int)) .list
      (convertValue files p.element.label member) (fun _ rest => ItemsJson rest)
      (turn_list runs free) (fun _ _ _ ready => ready.2) items [] m tree json holds
    rw [List.length_nil, turns_index] at loop
    exact loop
  | _ =>
    rw [run_unless (holds_isKind read .list)]
    exact holds.unchanged

/-- What is left of a mapping to go through: its keys are texts that differ from each other and
from those before them. -/
def KeysAhead (before rest : Entries) : Prop :=
  (∀ entry ∈ before, entry.1 ∉ rest.map Prod.fst) ∧ (rest.map Prod.fst).Nodup ∧ EntriesJson rest

theorem KeysAhead.advance {before rest : Entries} {k : Key} {v : Value}
    (ahead : KeysAhead before ((k, v) :: rest)) (w : Value) :
    KeysAhead (before ++ [(k, w)]) rest := by
  obtain ⟨apart, differ, json⟩ := ahead
  obtain ⟨first, others⟩ := List.nodup_cons.mp differ
  refine ⟨?_, others, json.2.2⟩
  intro entry member
  rcases List.mem_append.mp member with member | member
  · exact fun again => apart entry member (List.mem_cons_of_mem _ again)
  · rw [List.mem_singleton.mp member]
    exact first

theorem KeysAhead.absent {before rest : Entries} {name : String} {v : Value}
    (ahead : KeysAhead before ((.str name, v) :: rest)) :
    ∀ entry ∈ before, entry.1 ≠ .str name := by
  intro entry member same
  exact ahead.1 entry member (by simp [same])

theorem turn_map {type : TypeTree} (runs : Runs files type) {p : AccessPath} {steps : List Step}
    (free : IsTree p.root) (before : Entries) (entry : Key × Value) (rest : Entries) (m : Memory)
    (tree : Value) (ahead : KeysAhead before (entry :: rest))
    (holds : Holds m p steps tree (.map (before ++ entry :: rest))) :
    Leaves p.root p.depth m
      (runAll files (commandsOf (ofType p.mapValue (.place p.mapValue) type))
        (m.set p.mapVariable (valueOfKey entry.1)))
      (putAt steps tree (.map (before
        ++ (convertEntry (convertValue files p.mapValue.label type) entry).1 :: rest)))
      (convertEntry (convertValue files p.mapValue.label type) entry).2 := by
  obtain ⟨k, u⟩ := entry
  obtain ⟨name, rfl⟩ : ∃ name, k = .str name := ahead.2.2.1
  refine run_turn_map free ahead.absent holds fun m' entered => ?_
  exact runs p.mapValue (.place p.mapValue) m' _ tree u free entered entered.load ahead.2.2.2.1

theorem keysAhead_nil {entries : Entries} (json : (Value.map entries).IsJson) :
    KeysAhead [] entries := ⟨by simp, json.1, json.2⟩

theorem runs_map {key value : Field} (runs : Runs files value.type) :
    Runs files (.map key value) := by
  obtain ⟨_, type, _, _, _⟩ := value
  intro p probe m steps tree v free holds read json
  rw [ofType, commandsOf, commandsOf, commandOf]
  cases v with
  | map entries =>
    rw [run_when (holds_isKind read .mapping), run_body, runAll_single, Command.run, holds.load]
    have loop := each_leaves (fun _ entry => valueOfKey entry.1) .map
      (convertEntry (convertValue files p.mapValue.label type)) KeysAhead (turn_map runs free)
      (fun _ _ _ ready => ready.advance _) entries [] m tree (keysAhead_nil json) holds
    rw [List.length_nil, turns_key] at loop
    exact loop
  | _ =>
    rw [run_unless (holds_isKind read .mapping)]
    exact holds.unchanged

theorem runs_structure {members : List Field} (runs : RunAll files members) :
    Runs files (.structure members) := by
  intro p probe m steps tree v free holds read json
  rw [ofType, commandsOf, commandsOf, commandOf]
  cases v with
  | map entries =>
    rw [run_when (holds_isKind read .mapping), run_body]
    exact runs p m steps tree entries free holds fun f _ v found =>
      (json.2.of_mem (Entries.mem_of_get? found)).2
  | _ =>
    rw [run_unless (holds_isKind read .mapping)]
    exact holds.unchanged

theorem runAll_nil : RunAll files [] := by
  intro p m steps tree entries _ holds _
  exact holds.unchanged

theorem Holds.lookup {m : Memory} {p : AccessPath} {steps : List Step} {tree : Value}
    {entries : Entries} (holds : Holds m p steps tree (.map entries)) (name : String) :
    (readerOf (.lookup p name)).read m = .ok (Value.field entries name) := by
  rw [readerOf, Reader.read, holds.load]
  rfl

theorem run_member {name : String} {type : TypeTree} (runs : Runs files type) {p : AccessPath}
    {m : Memory} {steps : List Step} {tree : Value} {entries : Entries} (free : IsTree p.root)
    (holds : Holds m p steps tree (.map entries))
    (json : ∀ v, entries.get? name = some v → v.IsJson) :
    Leaves p.root p.depth m
      (runAll files (commandsOf (ofType (p.key name) (.lookup p name) type)) m)
      (putAt steps tree
        (.map (convertUnder name (convertValue files (p.key name).label type) entries).1))
      (convertUnder name (convertValue files (p.key name).label type) entries).2 := by
  have read := holds.lookup name
  cases found : entries.get? name with
  | none =>
    rw [Entries.field_eq_null found] at read
    rw [run_of_null read, convertUnder_of_absent found]
    exact holds.unchanged
  | some v =>
    rw [Entries.field_eq_of_get? found] at read
    obtain ⟨before, after, rfl, absent⟩ := Entries.split_of_get? found
    have step : inner (.map (before ++ (.str name, v) :: after)) (.key name) = .ok v :=
      inner_key absent
    have left := runs (p.key name) _ m _ tree v free (holds.key step) read (json v found)
    rw [putAt_append holds.value step, replaceInner_key absent] at left
    rw [convertUnder_append_cons absent]
    exact left

theorem ofFields_cons (p : AccessPath) (f : Field) (rest : List Field) :
    ofFields p (f :: rest)
      = (if f.type.containsSpecial then ofType (p.key f.name) (.lookup p f.name) f.type else [])
        ++ ofFields p rest := by
  cases f
  rfl

theorem run_field {f : Field} (runs : Runs files f.type) {p : AccessPath} {m : Memory}
    {steps : List Step} {tree : Value} {entries : Entries} (free : IsTree p.root)
    (holds : Holds m p steps tree (.map entries))
    (json : ∀ v, entries.get? f.name = some v → v.IsJson) :
    Leaves p.root p.depth m
      (runAll files (commandsOf (if f.type.containsSpecial
        then ofType (p.key f.name) (.lookup p f.name) f.type else [])) m)
      (putAt steps tree
        (.map (convertUnder f.name (convertValue files (p.key f.name).label f.type) entries).1))
      (convertUnder f.name (convertValue files (p.key f.name).label f.type) entries).2 := by
  cases special : f.type.containsSpecial with
  | true => exact run_member runs free holds json
  | false =>
    have still := fun v => convertValue_of_plain files f.type (p.key f.name).label v special
    rw [convertUnder_of_still still]
    exact holds.unchanged

theorem isJson_convertUnder {f : Field} {rest : List Field} {entries : Entries}
    (convert : Value → Value × Option Failure) (differ : f.name ∉ rest.map Field.name)
    (json : ∀ g ∈ f :: rest, ∀ v, entries.get? g.name = some v → v.IsJson) :
    ∀ g ∈ rest, ∀ v, (convertUnder f.name convert entries).1.get? g.name = some v → v.IsJson := by
  intro g member v found
  have other : g.name ≠ f.name := fun same => differ (same ▸ List.mem_map_of_mem member)
  rw [get?_convertUnder_of_ne other] at found
  exact json g (List.mem_cons_of_mem _ member) v found

theorem runAll_cons {f : Field} {rest : List Field} (runs : Runs files f.type)
    (others : RunAll files rest) (differ : f.name ∉ rest.map Field.name) :
    RunAll files (f :: rest) := by
  intro p m steps tree entries free holds json
  rw [ofFields_cons, commandsOf_append, runAll_append]
  have first := run_field runs free holds (json _ List.mem_cons_self)
  have kept := isJson_convertUnder (convertValue files (p.key f.name).label f.type) differ json
  rcases converted : convertUnder f.name (convertValue files (p.key f.name).label f.type) entries
    with ⟨changed, failure⟩
  rw [converted] at first kept
  cases failure with
  | some e =>
    rw [convertFields_cons_error converted]
    exact first.stopped
  | none =>
    rw [convertFields_cons_ok converted]
    refine first.continued ?_
    have later := others p _ steps _ changed free (holds.after first) kept
    rwa [putAt_putAt holds.value] at later

mutual
/-- Running the statements of a type converts a value of it. -/
theorem runs_type (files : System) : ∀ type : TypeTree, type.NamesDiffer → Runs files type
  | .primitive _, _ => fun _ _ _ _ _ _ _ holds _ _ => holds.unchanged
  | .blob streaming, _ => fun _ _ _ _ _ _ free holds read _ => run_blob free holds read streaming
  | .document, _ => fun _ _ _ _ _ _ free holds read json => run_document free holds read json
  | .structure members, differ => runs_structure (runs_fields files members differ)
  | .list member, differ => runs_list (runs_type files member differ)
  | .map _ ⟨_, value, _, _, _⟩, differ => runs_map (runs_type files value differ)
/-- Running the statements of members converts what a mapping holds under their names. -/
theorem runs_fields (files : System) : ∀ fields : List Field, NamesDiffer fields →
    RunAll files fields
  | [], _ => runAll_nil
  | ⟨_, type, _, _, _⟩ :: rest, ⟨differ, within, others⟩ =>
    runAll_cons (runs_type files type within) (runs_fields files rest others) differ
end

end ServiceCli.Conversion
