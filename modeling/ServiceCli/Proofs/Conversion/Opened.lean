import Mathlib.Data.List.Perm.Basic
import ServiceCli.Proofs.Conversion.Script
import ServiceCli.Proofs.Parameters.Stream
import ServiceCli.Proofs.Script.Opened

set_option autoImplicit false
set_option relaxedAutoImplicit false

namespace ServiceCli.Conversion

open ServiceCli.Data ServiceCli.Files ServiceCli.Parameters ServiceCli.Path
open ServiceCli.Script ServiceCli.Shape

section Calls

theorem anyMayOpen_append (first rest : List Command) :
    anyMayOpen (first ++ rest) = (anyMayOpen first || anyMayOpen rest) := by
  induction first with
  | nil => rfl
  | cons c first ih => rw [List.cons_append, anyMayOpen, anyMayOpen, ih, Bool.or_assoc]

mutual
theorem containsStream_of_plain : ∀ t : TypeTree, t.containsSpecial = false →
    t.containsStream = false
  | .primitive _, _ => rfl
  | .blob _, plain => absurd plain (by simp [TypeTree.containsSpecial])
  | .document, _ => rfl
  | .structure members, plain => anyStream_of_plain members plain
  | .list member, plain => containsStream_of_plain member plain
  | .map _ ⟨_, value, _, _, _⟩, plain => containsStream_of_plain value plain
theorem anyStream_of_plain : ∀ fields : List Field, TypeTree.anySpecial fields = false →
    TypeTree.anyStream fields = false
  | [], _ => rfl
  | ⟨_, type, _, _, _⟩ :: rest, plain => by
    obtain ⟨first, others⟩ := Bool.or_eq_false_iff.mp plain
    rw [TypeTree.anyStream, containsStream_of_plain type first, anyStream_of_plain rest others]
    rfl
end

mutual
theorem anyMayOpen_ofType : ∀ (type : TypeTree) (target : AccessPath) (probe : Probe),
    anyMayOpen (commandsOf (ofType target probe type)) = type.containsStream
  | .primitive _, _, _ => rfl
  | .blob streaming, target, probe => by cases streaming <;> rfl
  | .document, _, _ => rfl
  | .structure members, target, probe => by
    have inside := anyMayOpen_ofFields members target
    rw [ofType, commandsOf, commandsOf, commandOf, anyMayOpen, anyMayOpen, Command.mayOpen, inside,
      Bool.or_false]
    rfl
  | .list member, target, probe => by
    have inside := anyMayOpen_ofType member target.element (.place target.element)
    rw [ofType, commandsOf, commandsOf, commandOf, anyMayOpen, anyMayOpen, Command.mayOpen,
      anyMayOpen, anyMayOpen, Command.mayOpen, inside, Bool.or_false, Bool.or_false]
    rfl
  | .map _ ⟨_, value, _, _, _⟩, target, probe => by
    have inside := anyMayOpen_ofType value target.mapValue (.place target.mapValue)
    rw [ofType, commandsOf, commandsOf, commandOf, anyMayOpen, anyMayOpen, Command.mayOpen,
      anyMayOpen, anyMayOpen, Command.mayOpen, inside, Bool.or_false, Bool.or_false]
    rfl
theorem anyMayOpen_ofFields : ∀ (fields : List Field) (root : AccessPath),
    anyMayOpen (commandsOf (ofFields root fields)) = TypeTree.anyStream fields
  | [], _ => rfl
  | ⟨name, type, _, _, _⟩ :: rest, root => by
    have own := anyMayOpen_ofType type (root.key name) (.lookup root name)
    have others := anyMayOpen_ofFields rest root
    rw [ofFields, commandsOf_append, anyMayOpen_append, others, TypeTree.anyStream]
    cases special : type.containsSpecial with
    | true => rw [if_pos rfl, own]
    | false =>
      rw [containsStream_of_plain type special]
      rfl
end

end Calls

section Restrict

variable {P : String → Prop} [DecidablePred P]

mutual
theorem containsStream_restrict : ∀ t : TypeTree, t.containsStream = false →
    (t.restrict P).containsStream = false
  | .primitive _, _ => rfl
  | .blob _, plain => plain
  | .document, _ => rfl
  | .structure members, plain => anyStream_restrictFields members plain
  | .list member, plain => containsStream_restrict member plain
  | .map _ ⟨_, value, _, _, _⟩, plain => containsStream_restrict value plain
theorem anyStream_restrictFields : ∀ fields : List Field, TypeTree.anyStream fields = false →
    TypeTree.anyStream (restrictFields P fields) = false
  | [], _ => rfl
  | ⟨_, type, _, _, _⟩ :: rest, plain => by
    obtain ⟨first, others⟩ := Bool.or_eq_false_iff.mp plain
    have later := anyStream_restrictFields rest others
    rw [restrictFields]
    split
    · rw [TypeTree.anyStream, containsStream_restrict type first, later]
      rfl
    · exact later
end

end Restrict

variable {files : System}

/-- What the statements of a type open, as its own statement: wherever a value of the type is
converted without failure, they open the streams that the converted value holds. -/
def Opens (files : System) (type : TypeTree) : Prop :=
  ∀ (p : AccessPath) (probe : Probe) (m : Memory) (steps : List Step) (tree v : Value),
    IsTree p.root → Holds m p steps tree v → (readerOf probe).read m = .ok v → v.IsJson →
    (convertValue files p.label type v).2 = none →
    (openedAll files (commandsOf (ofType p probe type)) m).Perm
      (streamsIn (convertValue files p.label type v).1)

/-- What the statements of the members of a structure open. -/
def OpensAll (files : System) (fields : List Field) : Prop :=
  ∀ (p : AccessPath) (m : Memory) (steps : List Step) (tree : Value) (entries : Entries),
    IsTree p.root → Holds m p steps tree (.map entries) →
    (∀ f ∈ fields, ∀ v, entries.get? f.name = some v → v.IsJson) →
    (convertFields files p.label fields entries).2 = none →
    (streamsUnder entries ++ openedAll files (commandsOf (ofFields p fields)) m).Perm
      (streamsUnder (convertFields files p.label fields entries).1)

section Loop

variable {α : Type} {p : AccessPath} {steps : List Step} {name : String} {body : Memory → Left}
  {opens : Memory → List Value}

/-- A loop opens the streams that the converted items hold, when each of its turns opens those of
the item it has come to. -/
theorem openedEach_perm (held : Nat → α → Value) (container : List α → Value)
    (convert : α → α × Option Failure) (Ready : List α → List α → Prop) (streams : α → List Value)
    (turn : ∀ before a rest m tree, Ready before (a :: rest) →
      Holds m p steps tree (container (before ++ a :: rest)) →
      Leaves p.root p.depth m (body (m.set name (held before.length a)))
        (putAt steps tree (container (before ++ (convert a).1 :: rest))) (convert a).2)
    (opening : ∀ before a rest m tree, Ready before (a :: rest) →
      Holds m p steps tree (container (before ++ a :: rest)) → (convert a).2 = none →
      (opens (m.set name (held before.length a))).Perm (streams (convert a).1))
    (advance : ∀ before a rest, Ready before (a :: rest) →
      Ready (before ++ [(convert a).1]) rest)
    (rest before : List α) (m : Memory) (tree : Value) (ready : Ready before rest)
    (holds : Holds m p steps tree (container (before ++ rest)))
    (ok : (convertEach convert rest).2 = none) :
    (openedEach name body opens (turns held before.length rest) m).Perm
      ((convertEach convert rest).1.flatMap streams) := by
  induction rest generalizing before m tree with
  | nil => exact .nil
  | cons a rest ih =>
    have first := turn before a rest m tree ready holds
    have opened := opening before a rest m tree ready holds
    have after := holds.after first
    have later := advance before a rest ready
    rcases converted : convert a with ⟨b, failure⟩
    rw [converted] at first opened after later
    cases failure with
    | some e =>
      rw [convertEach_cons_error converted] at ok
      exact absurd ok (by simp)
    | none =>
      rw [convertEach_cons_ok converted] at ok ⊢
      -- the item that was converted now stands among those before
      have further := ih (before ++ [b]) _ _ later (by simpa using after) ok
      rw [List.length_append, List.length_singleton] at further
      rw [turns, openedEach, further_of_ok first.failure, List.flatMap_cons]
      exact (opened rfl).append further

end Loop

theorem streamsAmong_eq (items : List Value) : streamsAmong items = items.flatMap streamsIn := by
  induction items with
  | nil => rfl
  | cons v items ih => rw [streamsAmong, ih, List.flatMap_cons]

theorem streamsUnder_eq (entries : Entries) :
    streamsUnder entries = entries.flatMap fun entry => streamsIn entry.2 := by
  induction entries with
  | nil => rfl
  | cons entry entries ih => rw [streamsUnder, ih, List.flatMap_cons]

section Types

theorem opened_of_null {m : Memory} {probe : Probe} {target : AccessPath}
    (read : (readerOf probe).read m = .ok .null) (type : TypeTree) :
    openedAll files (commandsOf (ofType target probe type)) m = [] := by
  have absent : (Check.given (readerOf probe)).holds m = .ok false := by
    rw [holds_given read]
    simp
  cases type with
  | primitive kind => rfl
  | blob streaming => exact opened_unless absent [] _
  | document => exact opened_unless absent _ _
  | «structure» members => exact opened_unless (holds_isKind read .mapping) [] _
  | list member => exact opened_unless (holds_isKind read .list) [] _
  | map key value =>
    cases value
    exact opened_unless (holds_isKind read .mapping) [] _

theorem streamsIn_blobContent {streaming : Bool} {place : FieldPath} {v w : Value}
    (content : blobContent files streaming place v = .ok w) :
    streamsIn w = if streaming then [w] else [] := by
  simp only [blobContent] at content
  split at content
  · obtain rfl := Except.ok.inj content
    cases streaming <;> rfl
  · cases content
  · cases content

theorem opens_blob (streaming : Bool) : Opens files (.blob streaming) := by
  intro p probe m steps tree v free holds read json ok
  by_cases null : v = .null
  · subst null
    rw [opened_of_null read]
    exact .nil
  · have given : (Check.given (readerOf probe)).holds m = .ok true := by
      rw [holds_given read]
      simpa using null
    have answer : (blobCall p streaming).answer files m = blobContent files streaming p.label v :=
      blobCall_answer holds streaming
    rw [ofType, commandsOf, commandsOf, commandOf, opened_when given, opened_body, convertValue,
      if_neg null, openedAll_single, Command.opened]
    rw [convertValue, if_neg null] at ok
    cases content : blobContent files streaming p.label v with
    | error e =>
      rw [content] at ok
      exact absurd ok (by simp)
    | ok w =>
      rw [content] at answer
      have streams := streamsIn_blobContent content
      cases streaming with
      | false =>
        rw [streams]
        exact .nil
      | true =>
        rw [streams]
        have call : blobCall p true = .openBlob (placeOf p) p.label.text := rfl
        rw [call] at answer ⊢
        rw [Call.opened, answer]
        exact .refl _

theorem opens_document : Opens files .document := by
  intro p probe m steps tree v free holds read json ok
  have quiet : anyMayOpen (commandsOf (ofType p probe .document)) = false := rfl
  have streams : streamsIn (convertValue files p.label .document v).1 = [] := by
    unfold convertValue
    split
    · rfl
    · rfl
    · split
      · rfl
      · exact streamsIn_of_isJson v json
  rw [openedAll_of_quiet _ quiet, streams]

theorem opens_list {member : TypeTree} (runs : Runs files member) (opens : Opens files member) :
    Opens files (.list member) := by
  intro p probe m steps tree v free holds read json ok
  rw [ofType, commandsOf, commandsOf, commandOf]
  cases v with
  | list items =>
    have opening : ∀ before a rest m tree, ItemsJson (a :: rest) →
        Holds m p steps tree (.list (before ++ a :: rest)) →
        (convertValue files p.element.label member a).2 = none →
        (openedAll files (commandsOf (ofType p.element (.place p.element) member))
          (m.set p.loopVariable (.int (before.length : Int)))).Perm
            (streamsIn (convertValue files p.element.label member a).1) := by
      intro before a rest m tree ready holds ok
      have entered := (holds.enter_list free).1
      exact opens p.element (.place p.element) _ _ tree a free entered entered.load ready.1 ok
    have loop := openedEach_perm (fun i _ => .int (i : Int)) .list
      (convertValue files p.element.label member) (fun _ rest => ItemsJson rest) streamsIn
      (turn_list runs free) opening (fun _ _ _ ready => ready.2) items [] m tree json holds ok
    rw [List.length_nil, turns_index, ← streamsAmong_eq] at loop
    rw [opened_when (holds_isKind read .list), opened_body, openedAll_single, Command.opened,
      holds.load]
    exact loop
  | _ =>
    rw [opened_unless (holds_isKind read .list)]
    have streams := streamsIn_of_isJson _ json
    exact streams ▸ .nil

theorem opens_map {key value : Field} (runs : Runs files value.type)
    (opens : Opens files value.type) : Opens files (.map key value) := by
  obtain ⟨_, type, _, _, _⟩ := value
  intro p probe m steps tree v free holds read json ok
  rw [ofType, commandsOf, commandsOf, commandOf]
  cases v with
  | map entries =>
    have opening : ∀ before entry rest m tree, KeysAhead before (entry :: rest) →
        Holds m p steps tree (.map (before ++ entry :: rest)) →
        (convertEntry (convertValue files p.mapValue.label type) entry).2 = none →
        (openedAll files (commandsOf (ofType p.mapValue (.place p.mapValue) type))
          (m.set p.mapVariable (valueOfKey entry.1))).Perm
            (streamsIn (convertEntry (convertValue files p.mapValue.label type) entry).1.2) := by
      rintro before ⟨k, u⟩ rest m tree ahead holds ok
      obtain ⟨name, rfl⟩ : ∃ name, k = .str name := ahead.2.2.1
      have entered := (holds.enter_map free ahead.absent).1
      exact opens p.mapValue (.place p.mapValue) _ _ tree u free entered entered.load
        ahead.2.2.2.1 ok
    have loop := openedEach_perm (fun _ entry => valueOfKey entry.1) .map
      (convertEntry (convertValue files p.mapValue.label type)) KeysAhead
      (fun entry => streamsIn entry.2) (turn_map runs free) opening
      (fun _ _ _ ready => ready.advance _) entries [] m tree (keysAhead_nil json) holds ok
    rw [List.length_nil, turns_key, ← streamsUnder_eq] at loop
    rw [opened_when (holds_isKind read .mapping), opened_body, openedAll_single, Command.opened,
      holds.load]
    exact loop
  | _ =>
    rw [opened_unless (holds_isKind read .mapping)]
    have streams := streamsIn_of_isJson _ json
    exact streams ▸ .nil

theorem opens_structure {members : List Field} (opens : OpensAll files members) :
    Opens files (.structure members) := by
  intro p probe m steps tree v free holds read json ok
  rw [ofType, commandsOf, commandsOf, commandOf]
  cases v with
  | map entries =>
    have none := streamsUnder_of_isJson entries json.2
    have inside := opens p m steps tree entries free holds
      (fun f _ v found => (json.2.of_mem (Entries.mem_of_get? found)).2) ok
    rw [none, List.nil_append] at inside
    rw [opened_when (holds_isKind read .mapping), opened_body]
    exact inside
  | _ =>
    rw [opened_unless (holds_isKind read .mapping)]
    have streams := streamsIn_of_isJson _ json
    exact streams ▸ .nil

theorem opensAll_nil : OpensAll files [] := by
  intro p m steps tree entries _ _ _ _
  rw [ofFields, commandsOf, openedAll, List.append_nil]
  exact .refl _

theorem opened_member {name : String} {type : TypeTree} (opens : Opens files type) {p : AccessPath}
    {m : Memory} {steps : List Step} {tree : Value} {entries : Entries} (free : IsTree p.root)
    (holds : Holds m p steps tree (.map entries))
    (json : ∀ v, entries.get? name = some v → v.IsJson)
    (ok : (convertUnder name (convertValue files (p.key name).label type) entries).2 = none) :
    (streamsUnder entries
        ++ openedAll files (commandsOf (ofType (p.key name) (.lookup p name) type)) m).Perm
      (streamsUnder
        (convertUnder name (convertValue files (p.key name).label type) entries).1) := by
  have read := holds.lookup name
  cases found : entries.get? name with
  | none =>
    rw [Entries.field_eq_null found] at read
    rw [opened_of_null read, convertUnder_of_absent found, List.append_nil]
  | some v =>
    rw [Entries.field_eq_of_get? found] at read
    obtain ⟨before, after, rfl, absent⟩ := Entries.split_of_get? found
    have step : inner (.map (before ++ (.str name, v) :: after)) (.key name) = .ok v :=
      inner_key absent
    rw [convertUnder_append_cons absent] at ok ⊢
    have opened := opens (p.key name) _ m _ tree v free (holds.key step) read
      (json v found) ok
    have none := streamsIn_of_isJson v (json v found)
    rw [streamsUnder_append, streamsUnder_append, streamsUnder, streamsUnder, none,
      List.nil_append, List.append_assoc]
    exact (List.perm_append_comm.trans (opened.append_right _)).append_left _

theorem opensAll_cons {f : Field} {rest : List Field} (runs : Runs files f.type)
    (opens : Opens files f.type) (others : OpensAll files rest)
    (differ : f.name ∉ rest.map Field.name) : OpensAll files (f :: rest) := by
  intro p m steps tree entries free holds json ok
  rw [ofFields_cons, commandsOf_append, openedAll_append]
  have first := run_field runs free holds (json _ List.mem_cons_self)
  have kept := isJson_convertUnder (convertValue files (p.key f.name).label f.type) differ json
  have opened : (convertUnder f.name (convertValue files (p.key f.name).label f.type) entries).2
        = none →
      (streamsUnder entries ++ openedAll files (commandsOf (if f.type.containsSpecial
          then ofType (p.key f.name) (.lookup p f.name) f.type else [])) m).Perm
        (streamsUnder (convertUnder f.name
          (convertValue files (p.key f.name).label f.type) entries).1) := by
    intro ok
    cases special : f.type.containsSpecial with
    | true => exact opened_member opens free holds (json _ List.mem_cons_self) ok
    | false =>
      have still := fun v => convertValue_of_plain files f.type (p.key f.name).label v special
      rw [convertUnder_of_still still, if_neg (by simp), commandsOf, openedAll, List.append_nil]
  rcases converted : convertUnder f.name (convertValue files (p.key f.name).label f.type) entries
    with ⟨changed, failure⟩
  rw [converted] at first kept opened
  cases failure with
  | some e =>
    rw [convertFields_cons_error converted] at ok
    exact absurd ok (by simp)
  | none =>
    rw [convertFields_cons_ok converted] at ok ⊢
    have later := others p _ steps _ changed free (holds.after first) kept ok
    rw [further_of_ok first.failure, ← List.append_assoc]
    exact ((opened rfl).append_right _).trans later

mutual
theorem opens_type (files : System) : ∀ type : TypeTree, type.NamesDiffer → Opens files type
  | .primitive _, _ => by
    intro p probe m steps tree v _ _ _ json _
    have streams := streamsIn_of_isJson v json
    exact streams ▸ .nil
  | .blob streaming, _ => opens_blob streaming
  | .document, _ => opens_document
  | .structure members, differ => opens_structure (opens_fields files members differ)
  | .list member, differ =>
    opens_list (runs_type files member differ) (opens_type files member differ)
  | .map _ ⟨_, value, _, _, _⟩, differ =>
    opens_map (runs_type files value differ) (opens_type files value differ)
/-- The statements of members open the streams of the converted members. -/
theorem opens_fields (files : System) : ∀ fields : List Field, NamesDiffer fields →
    OpensAll files fields
  | [], _ => opensAll_nil
  | ⟨_, type, _, _, _⟩ :: rest, ⟨differ, within, others⟩ =>
    opensAll_cons (runs_type files type within) (opens_type files type within)
      (opens_fields files rest others) differ
end

end Types

/-- A script that comes to its end has put every stream that it opened into the parameters. -/
theorem opened_script (files : System) {fields : List Field} (differ : NamesDiffer fields)
    {entries : Entries} (json : (Value.map entries).IsJson) {m : Memory}
    (given : m treeName = some (.map entries))
    (ok : (convertFields files [] (restrictFields IsLegible fields) entries).2 = none) :
    (openedAll files (script (ofFields (.ofRoot treeName) fields)) m).Perm
      (streamsUnder (convertFields files [] (restrictFields IsLegible fields) entries).1) := by
  have holds : Holds m (.ofRoot treeName) [] (.map entries) (.map entries) := .ofRoot given
  have members : ∀ f ∈ restrictFields IsLegible fields, ∀ v,
      entries.get? f.name = some v → v.IsJson :=
    fun f _ v found => (json.2.of_mem (Entries.mem_of_get? found)).2
  have apart := namesDiffer_restrictFields (P := IsLegible) fields differ
  have opened := opens_fields files _ apart (.ofRoot treeName) m [] (.map entries) entries
    isTree_treeName holds members ok
  have none := streamsUnder_of_isJson entries json.2
  rw [none, List.nil_append] at opened
  rw [script_ofFields]
  exact opened

end ServiceCli.Conversion
