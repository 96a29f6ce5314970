import ServiceCli.Proofs.Conversion.Fragment
import ServiceCli.Proofs.Conversion.Reading
import ServiceCli.Proofs.Conversion.Run
import ServiceCli.Proofs.Script.Denotation

set_option autoImplicit false
set_option relaxedAutoImplicit false

namespace ServiceCli.Conversion

open ServiceCli.Data ServiceCli.Files ServiceCli.Path ServiceCli.Script ServiceCli.Shape

/-- Lines, so many blanks further in, are read one by one as the given ones. -/
def ReadLines (n : Nat) (lines : List String) (read : List (Nat × Line)) : Prop :=
  List.Forall₂ (fun text line => readLine (pad n text) = some line) lines read

section ReadLines

variable {n : Nat} {lines others : List String} {read further : List (Nat × Line)}

theorem ReadLines.append (first : ReadLines n lines read) (second : ReadLines n others further) :
    ReadLines n (lines ++ others) (read ++ further) := List.rel_append first second

theorem ReadLines.indent (inside : ReadLines (n + 4) lines read) :
    ReadLines n (indent lines) read := by
  refine List.forall₂_map_left_iff.mpr (inside.imp fun text line same => ?_)
  rw [pad_indented]
  exact same

theorem ReadLines.mapM (atMargin : ReadLines 0 lines read) : lines.mapM readLine = some read := by
  induction atMargin with
  | nil => rfl
  | cons first _ ih =>
    rw [pad, List.replicate_zero, List.nil_append, String.ofList_toList] at first
    rw [List.mapM_cons, first, ih]
    rfl

end ReadLines

theorem layoutAll_single (n : Nat) (s : Statement) :
    layoutAll n (commandsOf [s]) = (commandOf s).layout n := by
  rw [commandsOf, commandsOf, layoutAll, layoutAll, List.append_nil]

section Statements

variable {n : Nat} {probe : Probe} {target : AccessPath} {body : List Statement}

private theorem indented {text text' : String} {line : Line} (reads : ReadsAs text line)
    (spelt : text' = "    " ++ text) : readLine (pad n text') = some (n + 4, line) := by
  rw [spelt, pad_indented]
  exact reads.pad (n + 4)

private theorem reads_guard (written : probe.IsWritten) (kind : Kind) {ending : String}
    (spelt : ending = ", " ++ (kind.word ++ "):")) :
    ReadsAs ("if isinstance(" ++ probe.expression ++ ending)
      (.opening (.when [.isKind (readerOf probe) kind])) := by
  have parts : "if isinstance(" ++ probe.expression ++ ending
      = "if isinstance(" ++ probe.expression ++ ", " ++ kind.word ++ "):" := by
    simp only [spelt, String.append_assoc]
  rw [parts]
  exact reads_isKind written kind

theorem lines_convertBlob (written : probe.IsWritten) (alsoWritten : IsWritten target)
    (streaming : Bool) :
    ReadLines n (Statement.convertBlob probe target streaming).lines
      ((commandOf (.convertBlob probe target streaming)).layout n) := by
  refine .cons ((reads_given written).pad n)
    (.cons (indented (reads_blob alsoWritten streaming) ?_) .nil)
  simp only [String.append_assoc]

theorem lines_convertDocument (written : probe.IsWritten) (alsoWritten : IsWritten target) :
    ReadLines n (Statement.convertDocument probe target).lines
      ((commandOf (.convertDocument probe target)).layout n) := by
  refine .cons ((reads_document written alsoWritten).pad n)
    (.cons (indented (reads_serialize alsoWritten) ?_) .nil)
  simp only [String.append_assoc]

theorem lines_inStructure (written : probe.IsWritten)
    (inside : ReadLines (n + 4) (linesOf body) (layoutAll (n + 4) (commandsOf body))) :
    ReadLines n (Statement.inStructure probe body).lines
      ((commandOf (.inStructure probe body)).layout n) :=
  .cons ((reads_guard written .mapping rfl).pad n) inside.indent

theorem lines_overList (written : probe.IsWritten) (alsoWritten : IsWritten target)
    (inside : ReadLines (n + 4 + 4) (linesOf body) (layoutAll (n + 4 + 4) (commandsOf body))) :
    ReadLines n (Statement.overList probe target body).lines
      ((commandOf (.overList probe target body)).layout n) := by
  rw [Statement.lines, commandOf, Command.layout, layoutAll, layoutAll, List.append_nil,
    Command.layout]
  refine .cons ((reads_guard written .list rfl).pad n)
    (.cons (indented (reads_overIndices alsoWritten) ?_) inside.indent.indent)
  simp only [String.append_assoc]
  rfl

theorem lines_overMap (written : probe.IsWritten) (alsoWritten : IsWritten target)
    (inside : ReadLines (n + 4 + 4) (linesOf body) (layoutAll (n + 4 + 4) (commandsOf body))) :
    ReadLines n (Statement.overMap probe target body).lines
      ((commandOf (.overMap probe target body)).layout n) := by
  rw [Statement.lines, commandOf, Command.layout, layoutAll, layoutAll, List.append_nil,
    Command.layout]
  refine .cons ((reads_guard written .mapping rfl).pad n)
    (.cons (indented (reads_overMembers alsoWritten) ?_) inside.indent.indent)
  simp only [String.append_assoc]
  rfl

end Statements

mutual
theorem lines_ofType : ∀ (type : TypeTree) (n : Nat) (target : AccessPath) (probe : Probe),
    type.NamesHave IsWritable → IsWritten target → probe.IsWritten →
    ReadLines n (linesOf (ofType target probe type))
      (layoutAll n (commandsOf (ofType target probe type)))
  | .primitive _, _, _, _, _, _, _ => .nil
  | .blob streaming, n, target, probe, _, written, probed => by
    rw [ofType, linesOf_single, layoutAll_single]
    exact lines_convertBlob probed written streaming
  | .document, n, target, probe, _, written, probed => by
    rw [ofType, linesOf_single, layoutAll_single]
    exact lines_convertDocument probed written
  | .structure members, n, target, probe, writable, written, probed => by
    rw [ofType, linesOf_single, layoutAll_single]
    exact lines_inStructure probed (lines_ofFields members (n + 4) target writable written)
  | .list member, n, target, probe, writable, written, probed => by
    rw [ofType, linesOf_single, layoutAll_single]
    exact lines_overList probed written
      (lines_ofType member (n + 4 + 4) target.element (.place target.element) writable
        written.element written.element)
  | .map _ ⟨_, value, _, _, _⟩, n, target, probe, writable, written, probed => by
    rw [ofType, linesOf_single, layoutAll_single]
    exact lines_overMap probed written
      (lines_ofType value (n + 4 + 4) target.mapValue (.place target.mapValue) writable
        written.mapValue written.mapValue)
theorem lines_ofFields : ∀ (fields : List Field) (n : Nat) (root : AccessPath),
    NamesHave IsWritable fields → IsWritten root →
    ReadLines n (linesOf (ofFields root fields)) (layoutAll n (commandsOf (ofFields root fields)))
  | [], _, _, _, _ => .nil
  | ⟨name, type, _, _, _⟩ :: rest, n, root, ⟨writable, within, others⟩, written => by
    rw [ofFields, linesOf_append, commandsOf_append, layoutAll_append]
    refine .append ?_ (lines_ofFields rest n root others written)
    split
    · exact lines_ofType type n (root.key name) (.lookup root name) within (written.key writable)
        ⟨written, writable⟩
    · exact .nil
end

mutual
theorem filled_ofType : ∀ (type : TypeTree) (target : AccessPath) (probe : Probe),
    type.containsSpecial = true → commandsOf (ofType target probe type) ≠ []
      ∧ AllFilled (commandsOf (ofType target probe type))
  | .primitive _, _, _, special => absurd special (by simp [TypeTree.containsSpecial])
  | .blob _, _, _, _ => ⟨by simp [ofType, commandsOf], ⟨⟨by simp, trivial, trivial⟩, trivial⟩⟩
  | .document, _, _, _ => ⟨by simp [ofType, commandsOf], ⟨⟨by simp, trivial, trivial⟩, trivial⟩⟩
  | .structure members, target, _, special =>
    have inside := filled_ofFields members target
    ⟨by simp [ofType, commandsOf], ⟨⟨inside.2 special, inside.1⟩, trivial⟩⟩
  | .list member, target, _, special =>
    have inside := filled_ofType member target.element (.place target.element) special
    ⟨by simp [ofType, commandsOf], ⟨⟨by simp, inside, trivial⟩, trivial⟩⟩
  | .map _ ⟨_, value, _, _, _⟩, target, _, special =>
    have inside := filled_ofType value target.mapValue (.place target.mapValue) special
    ⟨by simp [ofType, commandsOf], ⟨⟨by simp, inside, trivial⟩, trivial⟩⟩
/-- The blocks of members are not empty, and one of them is there when a blob or a document can be
reached. -/
theorem filled_ofFields : ∀ (fields : List Field) (root : AccessPath),
    AllFilled (commandsOf (ofFields root fields))
      ∧ (TypeTree.anySpecial fields = true → commandsOf (ofFields root fields) ≠ [])
  | [], _ => ⟨trivial, fun special => absurd special (by simp [TypeTree.anySpecial])⟩
  | ⟨name, type, _, _, _⟩ :: rest, root => by
    have others := filled_ofFields rest root
    rw [ofFields, commandsOf_append, TypeTree.anySpecial]
    cases special : type.containsSpecial with
    | true =>
      have first := filled_ofType type (root.key name) (.lookup root name) special
      refine ⟨first.2.append others.1, fun _ => ?_⟩
      exact List.append_ne_nil_of_left_ne_nil first.1 _
    | false => exact ⟨others.1, fun any => others.2 (by simpa using any)⟩
end

theorem ofType_ne_nil {type : TypeTree} (special : type.containsSpecial = true)
    (target : AccessPath) (probe : Probe) : ofType target probe type ≠ [] := by
  intro empty
  have filled := (filled_ofType type target probe special).1
  rw [empty] at filled
  exact filled rfl

theorem ofFields_ne_nil {fields : List Field} (special : TypeTree.anySpecial fields = true)
    (root : AccessPath) : ofFields root fields ≠ [] := by
  intro empty
  have filled := (filled_ofFields fields root).2 special
  rw [empty] at filled
  exact filled rfl

theorem ofFields_eq_nil {fields : List Field} (plain : TypeTree.anySpecial fields = false)
    (root : AccessPath) : ofFields root fields = [] := by
  induction fields with
  | nil => rfl
  | cons f fields ih =>
    obtain ⟨name, type, _, _, _⟩ := f
    obtain ⟨first, others⟩ := Bool.or_eq_false_iff.mp plain
    rw [ofFields, first, if_neg (by simp), ih others, List.append_nil]

/-- The lines that convert parameters are a script, namely the commands of the statements. -/
theorem read_linesOf {fields : List Field} (writable : NamesHave IsWritable fields) :
    Script.read (linesOf (ofFields (.ofRoot treeName) fields))
      = some (commandsOf (ofFields (.ofRoot treeName) fields)) := by
  have lines := (lines_ofFields fields 0 (.ofRoot treeName) writable .ofRoot).mapM
  rw [Script.read, lines]
  exact commands?_layoutAll 0 _ (filled_ofFields fields (.ofRoot treeName)).1

/-- The lines that convert parameters are a script, and running it converts the parameters member by
member, as deep as the types go. The first blob that names no file stops the run; what stands before
it is converted, what stands after it is not. -/
theorem run_lines (files : System) {fields : List Field} (writable : NamesHave IsWritable fields)
    (differ : NamesDiffer fields) {entries : Entries} (json : (Value.map entries).IsJson)
    {m : Memory} (given : m treeName = some (.map entries)) :
    ∃ script, Script.read (linesOf (ofFields (.ofRoot treeName) fields)) = some script
      ∧ (runAll files script m).memory treeName
        = some (.map (convertFields files [] fields entries).1)
      ∧ (runAll files script m).failure = (convertFields files [] fields entries).2 := by
  have free : IsTree treeName :=
    fun n => Path.AccessPath.not_loopVariable (c := 'p') rfl (by decide) n
  have holds : Holds m (.ofRoot treeName) [] (.map entries) (.map entries) := .ofRoot given
  have members : ∀ f ∈ fields, ∀ v, entries.get? f.name = some v → v.IsJson :=
    fun f _ v found => (json.2.of_mem (Entries.mem_of_get? found)).2
  have run := runs_fields files fields differ (.ofRoot treeName) m [] (.map entries) entries free
    holds members
  exact ⟨_, read_linesOf writable, run.tree, run.failure⟩

private def manifestFields : List Field := [
  ⟨"note", .document, false, "", false⟩,
  ⟨"parts", .list (.structure [⟨"file", .blob false, false, "", false⟩,
    ⟨"label", .primitive "string", false, "", false⟩]), false, "", false⟩,
  ⟨"extra", .map ⟨"key", .primitive "string", false, "", false⟩
    ⟨"value", .blob true, false, "", false⟩, false, "", false⟩]

private def manifest : Entries := [
  (.str "extra", .map [(.str "logo", .str "a")]),
  (.str "parts", .list [.map [(.str "label", .str "a"), (.str "file", .str "a")], .int 5,
    .map [(.str "file", .str "b")]]),
  (.str "note", .list [.int 1, .null])]

private def manifestFiles : System := ⟨.directory [("a", .file [104, 105])], []⟩

/-- The second part names no file: the document and the first part are converted, the stream is not
opened. -/
theorem run_manifest :
    NamesHave IsWritable manifestFields ∧ NamesDiffer manifestFields
      ∧ (Value.map manifest).IsJson
      ∧ ∃ script, Script.read (linesOf (ofFields (.ofRoot treeName) manifestFields)) = some script
        ∧ (runAll manifestFiles script
            (Memory.set (fun _ => none) treeName (.map manifest))).memory treeName
          = some (.map [
            (.str "extra", .map [(.str "logo", .str "a")]),
            (.str "parts", .list [.map [(.str "label", .str "a"), (.str "file", .bytes [104, 105])],
              .int 5, .map [(.str "file", .str "b")]]),
            (.str "note", .str "[1, null]")])
        ∧ (runAll manifestFiles script
            (Memory.set (fun _ => none) treeName (.map manifest))).failure
          = some (.blobNotFound "parts[].file" "b") := by
  have writable : NamesHave IsWritable manifestFields := by
    simp only [manifestFields, NamesHave, TypeTree.NamesHave, and_true, true_and, and_assoc]
    refine ⟨?_, ?_, ?_, ?_, ?_⟩ <;> exact isWritable_of_all (by decide)
  have differ : NamesDiffer manifestFields := by
    simp [manifestFields, NamesDiffer, TypeTree.NamesDiffer]
  have json : (Value.map manifest).IsJson := by
    simp [manifest, Value.IsJson, EntriesJson, ItemsJson, Scalar.isJson]
  refine ⟨writable, differ, json, ?_⟩
  have run := run_lines manifestFiles writable differ json (Memory.set_same (fun _ => none) _ _)
  have converted : convertFields manifestFiles [] manifestFields manifest = ([
      (.str "extra", .map [(.str "logo", .str "a")]),
      (.str "parts", .list [.map [(.str "label", .str "a"), (.str "file", .bytes [104, 105])],
        .int 5, .map [(.str "file", .str "b")]]),
      (.str "note", .str "[1, null]")], some (.blobNotFound "parts[].file" "b")) := by
    rfl
  rw [converted] at run
  exact run

/-! ### Statements that are reached

The statements that a run reaches. A lookup finds nothing when the literal of its key denotes no
text, so its block is passed over, and with it all that stands inside. What is left are the
statements of the members whose literals denote their names.
-/

/-- A name that its key literal denotes. -/
def IsLegible (name : String) : Prop := Denotes (Json.quote name) name

instance : DecidablePred IsLegible := fun name => inferInstanceAs (Decidable (Denotes _ name))

def Probe.IsLegible : Probe → Prop
  | .lookup _ name => Conversion.IsLegible name
  | .place _ => True

instance : DecidablePred Probe.IsLegible
  | .lookup _ name => inferInstanceAs (Decidable (Conversion.IsLegible name))
  | .place _ => inferInstanceAs (Decidable True)

/-- A block around a body, or nothing where there is nothing to do in it. -/
def blockOf (wrap : List Statement → Statement) (body : List Statement) : List Statement :=
  if body.isEmpty then [] else [wrap body]

mutual
def Statement.reached : Statement → List Statement
  | .convertBlob probe target streaming =>
    if probe.IsLegible then [.convertBlob probe target streaming] else []
  | .convertDocument probe target =>
    if probe.IsLegible then [.convertDocument probe target] else []
  | .inStructure probe body =>
    if probe.IsLegible then blockOf (.inStructure probe) (reachedOf body) else []
  | .overList probe target body =>
    if probe.IsLegible then blockOf (.overList probe target) (reachedOf body) else []
  | .overMap probe target body =>
    if probe.IsLegible then blockOf (.overMap probe target) (reachedOf body) else []
def reachedOf : List Statement → List Statement
  | [] => []
  | s :: rest => s.reached ++ reachedOf rest
end

theorem reachedOf_append (first rest : List Statement) :
    reachedOf (first ++ rest) = reachedOf first ++ reachedOf rest := by
  induction first with
  | nil => rfl
  | cons s first ih => rw [List.cons_append, reachedOf, reachedOf, ih, List.append_assoc]

theorem reachedOf_single (s : Statement) : reachedOf [s] = s.reached := by
  rw [reachedOf, reachedOf, List.append_nil]

theorem blockOf_nil (wrap : List Statement → Statement) : blockOf wrap [] = [] := rfl

theorem blockOf_filled {wrap : List Statement → Statement} {body : List Statement}
    (filled : body ≠ []) : blockOf wrap body = [wrap body] := by
  rw [blockOf, if_neg (by simpa using filled)]

section Restrict

variable {P : String → Prop} [DecidablePred P]

mutual
theorem containsSpecial_restrict : ∀ t : TypeTree, t.containsSpecial = false →
    (t.restrict P).containsSpecial = false
  | .structure members, plain => anySpecial_restrictFields members plain
  | .list member, plain => containsSpecial_restrict member plain
  | .map _ ⟨_, type, _, _, _⟩, plain => containsSpecial_restrict type plain
  | .primitive _, _ => rfl
  | .blob _, plain => absurd plain (by simp [TypeTree.containsSpecial])
  | .document, plain => absurd plain (by simp [TypeTree.containsSpecial])
theorem anySpecial_restrictFields : ∀ fields : List Field, TypeTree.anySpecial fields = false →
    TypeTree.anySpecial (restrictFields P fields) = false
  | [], _ => rfl
  | ⟨_, type, _, _, _⟩ :: rest, plain => by
    obtain ⟨first, others⟩ := Bool.or_eq_false_iff.mp plain
    have later := anySpecial_restrictFields rest others
    rw [restrictFields]
    split
    · rw [TypeTree.anySpecial, containsSpecial_restrict type first, later, Bool.or_self]
    · exact later
end

end Restrict

private theorem blockOf_reached {wrap : List Statement → Statement} {body : List Statement}
    {special : Bool} (filled : special = true → body ≠ []) (empty : special = false → body = []) :
    blockOf wrap body = if special then [wrap body] else [] := by
  cases special with
  | true => exact blockOf_filled (filled rfl)
  | false => rw [empty rfl, blockOf_nil]; rfl

theorem reached_of_illegible {probe : Probe} (illegible : ¬ probe.IsLegible) (target : AccessPath)
    (type : TypeTree) : reachedOf (ofType target probe type) = [] := by
  cases type with
  | primitive => rfl
  | blob => rw [ofType, reachedOf_single, Statement.reached, if_neg illegible]
  | document => rw [ofType, reachedOf_single, Statement.reached, if_neg illegible]
  | list => rw [ofType, reachedOf_single, Statement.reached, if_neg illegible]
  | map _ value =>
    cases value
    rw [ofType, reachedOf_single, Statement.reached, if_neg illegible]
  | «structure» => rw [ofType, reachedOf_single, Statement.reached, if_neg illegible]

mutual
theorem reachedOf_ofType : ∀ (type : TypeTree) (target : AccessPath) (probe : Probe),
    probe.IsLegible → reachedOf (ofType target probe type)
      = if (type.restrict IsLegible).containsSpecial
        then ofType target probe (type.restrict IsLegible) else []
  | .primitive _, _, _, _ => rfl
  | .blob _, _, _, legible => by
    rw [ofType, reachedOf_single, Statement.reached, if_pos legible]
    rfl
  | .document, _, _, legible => by
    rw [ofType, reachedOf_single, Statement.reached, if_pos legible]
    rfl
  | .structure members, target, probe, legible => by
    have inside := reachedOf_ofFields members target
    rw [ofType, reachedOf_single, Statement.reached, if_pos legible, inside]
    exact blockOf_reached (fun special => ofFields_ne_nil special target)
      fun plain => ofFields_eq_nil plain target
  | .list member, target, probe, legible => by
    have inside := reachedOf_ofType member target.element (.place target.element) trivial
    rw [ofType, reachedOf_single, Statement.reached, if_pos legible, inside, TypeTree.restrict,
      TypeTree.containsSpecial, ofType]
    split
    · rename_i special
      exact blockOf_filled (ofType_ne_nil special _ _)
    · rfl
  | .map _ ⟨_, value, _, _, _⟩, target, probe, legible => by
    have inside := reachedOf_ofType value target.mapValue (.place target.mapValue) trivial
    rw [ofType, reachedOf_single, Statement.reached, if_pos legible, inside, TypeTree.restrict,
      TypeTree.containsSpecial, ofType]
    split
    · rename_i special
      exact blockOf_filled (ofType_ne_nil special _ _)
    · rfl
/-- What a run reaches of the statements of members are those of the legible ones. -/
theorem reachedOf_ofFields : ∀ (fields : List Field) (root : AccessPath),
    reachedOf (ofFields root fields) = ofFields root (restrictFields IsLegible fields)
  | [], _ => rfl
  | ⟨name, type, _, _, _⟩ :: rest, root => by
    have others := reachedOf_ofFields rest root
    rw [ofFields, reachedOf_append, others, restrictFields]
    by_cases legible : IsLegible name
    · have own := reachedOf_ofType type (root.key name) (.lookup root name) legible
      rw [if_pos legible, ofFields]
      split
      · rw [own]
      · rename_i plain
        rw [containsSpecial_restrict type (by simpa using plain)]
        rfl
    · have illegible : ¬ (Probe.lookup root name).IsLegible := legible
      have own := reached_of_illegible illegible (root.key name) type
      rw [if_neg legible]
      split
      · rw [own, List.nil_append]
      · rfl
end

/-- The script of statements: their commands, those that no run reaches left out. -/
def script (statements : List Statement) : List Command := commandsOf (reachedOf statements)

theorem script_ofFields (fields : List Field) :
    script (ofFields (.ofRoot treeName) fields)
      = commandsOf (ofFields (.ofRoot treeName) (restrictFields IsLegible fields)) := by
  rw [script, reachedOf_ofFields]

theorem IsWritable.legible {name : String} (writable : IsWritable name) : IsLegible name :=
  (denotes_jsonQuote name).mpr fun c member => (writable c member).2

/-- The lines that convert members of writable names are read as their script. -/
theorem read_script {fields : List Field} (writable : NamesHave IsWritable fields) :
    Script.read (linesOf (ofFields (.ofRoot treeName) fields))
      = some (script (ofFields (.ofRoot treeName) fields)) := by
  have legible : NamesHave IsLegible fields := by
    rw [namesHave_iff] at writable ⊢
    intro name member
    exact (writable name member).legible
  rw [read_linesOf writable, script_ofFields, restrictFields_of_namesHave fields legible]

theorem isTree_treeName : IsTree treeName :=
  fun n => Path.AccessPath.not_loopVariable (c := 'p') rfl (by decide) n

/-- Running a script converts the legible members of the parameters, up to the first failure. -/
theorem run_script (files : System) {fields : List Field} (differ : NamesDiffer fields)
    {entries : Entries} (json : (Value.map entries).IsJson) {m : Memory}
    (given : m treeName = some (.map entries)) :
    (runAll files (script (ofFields (.ofRoot treeName) fields)) m).memory treeName
        = some (.map (convertFields files [] (restrictFields IsLegible fields) entries).1)
      ∧ (runAll files (script (ofFields (.ofRoot treeName) fields)) m).failure
        = (convertFields files [] (restrictFields IsLegible fields) entries).2 := by
  have holds : Holds m (.ofRoot treeName) [] (.map entries) (.map entries) := .ofRoot given
  have members : ∀ f ∈ restrictFields IsLegible fields, ∀ v,
      entries.get? f.name = some v → v.IsJson :=
    fun f _ v found => (json.2.of_mem (Entries.mem_of_get? found)).2
  have apart := namesDiffer_restrictFields (P := IsLegible) fields differ
  have run := runs_fields files _ apart (.ofRoot treeName) m [] (.map entries) entries
    isTree_treeName holds members
  rw [script_ofFields]
  exact ⟨run.tree, run.failure⟩

end ServiceCli.Conversion
