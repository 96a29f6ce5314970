import ServiceCli.Proofs.Command.Outline
import ServiceCli.Proofs.Command.Plan
import ServiceCli.Proofs.Command.Required
import ServiceCli.Proofs.Data.JsonRoundtrip
import ServiceCli.Proofs.Text.Character

/-!
The surfaces of a command. Each is read back from its text: the flags at the top of the outline, the
names in the parameter file, the flags of the usage example with those in brackets apart, and the
required texts without marks. Main statement: all of them name the flags of the command in their
order.
-/

set_option autoImplicit false
set_option relaxedAutoImplicit false

namespace ServiceCli.Command

open ServiceCli.Data ServiceCli.Parameters ServiceCli.Path ServiceCli.Service ServiceCli.Shape
open ServiceCli.Text

/-- The name of the flag that a text begins with: what follows two dashes, up to the first blank. -/
def flagNameAt? : List Char → Option String
  | '-' :: '-' :: rest => some (String.ofList (rest.takeWhile fun c => !isBlank c))
  | _ => none

/-- The names of the flags that the lines with so many spaces in front begin with. -/
def flagNamesAt (indent : Nat) (lines : List String) : List (Option String) :=
  ((lines.map String.toList).filter (indentOf · == indent)).map (flagNameAt? <| unindented ·)

/-- A flag as an example shows it. -/
structure ShownFlag where
  name : String
  bracketed : Bool
  deriving DecidableEq, Repr

def shownFlag? (line : String) : Option ShownFlag :=
  match unindented line.toList with
  | '[' :: rest => if rest.contains ']' then (flagNameAt? rest).map (⟨·, true⟩) else none
  | cs => (flagNameAt? cs).map (⟨·, false⟩)

def behindFirstLine (cs : List Char) : List Char := (cs.dropWhile (· != '\n')).tail

/-- Whether a text names a member of the input itself. -/
def isTopLevel (text : String) : Bool := text.toList.all fun c => !isMark c

/-- The surfaces of a command agree with its flags, whose input has the given members. -/
structure Plan.SurfacesAgree (plan : Plan) (fields : List Field) : Prop where
  outline : flagNamesAt 4 (plan.outline.map OutlineLine.text) = plan.flags.map (some ·.name)
  file : ∃ entries, Json.readList (behindFirstLine plan.fileExample.toList) = .ok (.map entries)
    ∧ entries.map Prod.fst = plan.flags.map (.str ·.name)
  usage : ∃ shown, plan.usageExample.tail.mapM shownFlag? = some shown
    ∧ (shown.filter (!·.bracketed)).map ShownFlag.name
      = (plan.flags.filter (·.required)).map Flag.name
    ∧ (shown.filter (·.bracketed)).map ShownFlag.name
      = (fields.find? (!·.required)).toList.map Field.name
    ∧ ((shown.filter (·.bracketed)).length = 1 ↔ ∃ f ∈ fields, f.required = false)
  required : plan.required.filter isTopLevel = (plan.flags.filter (·.required)).map Flag.name

section Names

variable {name : String}

theorem flagNameAt?_name (unbroken : ∀ c ∈ name.toList, isBlank c = false) (rest : List Char) :
    flagNameAt? ('-' :: '-' :: (name.toList ++ ' ' :: rest)) = some name := by
  have all : ∀ c ∈ name.toList, (!isBlank c) = true := fun c member => by
    rw [unbroken c member]
    rfl
  have blank : isBlank ' ' = true := by decide
  rw [flagNameAt?, List.takeWhile_append_of_pos all, List.takeWhile_cons_of_neg (by simp [blank]),
    List.append_nil, String.ofList_toList]

end Names

section Outline

variable {fields : List Field} {needsToken : Bool}

def BeginsFlag (text name : String) : Prop :=
  ∃ rest, text.toList = '-' :: '-' :: (name.toList ++ ' ' :: rest)

theorem flagNamesAt_append (indent : Nat) (first rest : List String) :
    flagNamesAt indent (first ++ rest) = flagNamesAt indent first ++ flagNamesAt indent rest := by
  rw [flagNamesAt, List.map_append, List.filter_append, List.map_append]
  rfl

theorem flagNamesAt_single {l : OutlineLine} {name : String} (begins : BeginsFlag l.head name)
    (unbroken : ∀ c ∈ name.toList, isBlank c = false) :
    flagNamesAt l.indent [l.text] = [some name] := by
  have spelt := l.text_toList
  obtain ⟨rest, begins⟩ := begins
  have head : (l.head ++ tailOf l.documentation).toList
      = '-' :: '-' :: (name.toList ++ ' ' :: (rest ++ (tailOf l.documentation).toList)) := by
    simp [begins]
  have solid : (l.head ++ tailOf l.documentation).toList.head? ≠ some ' ' := by simp [head]
  have here : indentOf l.text.toList = l.indent := by
    rw [spelt, indentOf_append, indentOf_solid solid, Nat.add_zero]
  have own : flagNameAt? (unindented l.text.toList) = some name := by
    rw [spelt, unindented_append, unindented_solid solid, head, flagNameAt?_name unbroken]
  simp [flagNamesAt, here, own]

theorem flagNamesAt_deeper {indent : Nat} {lines : List OutlineLine}
    (deeper : ∀ l ∈ lines, indent < l.indent) :
    flagNamesAt indent (lines.map OutlineLine.text) = [] := by
  rw [flagNamesAt, List.map_eq_nil_iff, List.filter_eq_nil_iff]
  intro cs member
  obtain ⟨text, there, rfl⟩ := List.mem_map.mp member
  obtain ⟨l, line, rfl⟩ := List.mem_map.mp there
  have deep := deeper l line
  rw [l.text_toList, indentOf_append, beq_iff_eq]
  omega

theorem lines_indent {lead : String} {indent : Nat} {t : OutlineTree} {l : OutlineLine}
    (member : l ∈ t.lines lead indent) : indent ≤ l.indent := by
  induction t generalizing lead indent with
  | empty => exact absurd member List.not_mem_nil
  | entry s inside rest ihInside ihRest =>
    rw [OutlineTree.lines, List.cons_append, List.mem_cons, List.mem_append] at member
    rcases member with rfl | within | later
    · exact Nat.le_refl indent
    · have deep := ihInside within
      omega
    · exact ihRest later

theorem flagNamesAt_lines {indent : Nat} {t : OutlineTree} {name : Subject → String}
    (begins : ∀ s ∈ t.roots, BeginsFlag (s.head "--") (name s))
    (unbroken : ∀ s ∈ t.roots, ∀ c ∈ (name s).toList, isBlank c = false) :
    flagNamesAt indent ((t.lines "--" indent).map OutlineLine.text)
      = t.roots.map (some <| name ·) := by
  induction t with
  | empty => rfl
  | entry s inside rest _ ih =>
    have own : flagNamesAt indent [(s.line "--" indent).text]
        = [some (name s)] :=
      flagNamesAt_single (begins s List.mem_cons_self) (unbroken s List.mem_cons_self)
    have within : flagNamesAt indent ((inside.lines "" (indent + 4)).map OutlineLine.text) = [] :=
      flagNamesAt_deeper fun l member => by
        have deep := lines_indent member
        omega
    have later := ih (fun s root => begins s (List.mem_cons_of_mem _ root))
      fun s root => unbroken s (List.mem_cons_of_mem _ root)
    rw [OutlineTree.lines, List.map_append, List.map_cons, ← List.singleton_append,
      flagNamesAt_append, flagNamesAt_append, own, within, later]
    rfl

/-- The name of the flag that the line of a subject at the top begins with. -/
def Subject.flagName : Subject → String
  | .member _ f => f.name
  | _ => tokenName

theorem beginsFlag_member (path : FieldPath) (f : Field) :
    BeginsFlag ((Subject.member path f).head "--") f.name := by
  obtain ⟨rest, spelt⟩ := typedHead_toList f.name (mark f.required) f.type
  refine ⟨rest, ?_⟩
  rw [Subject.head, String.append_assoc, String.append_assoc, String.toList_append,
    ← String.append_assoc, spelt]
  rfl

/-- The lines at the top of an outline are read as the names of the flags. -/
theorem flagNamesAt_outlineOf
    (unbroken : ∀ f ∈ fields, ∀ c ∈ f.name.toList, isBlank c = false) :
    flagNamesAt 4 ((outlineOf fields needsToken 4).map OutlineLine.text)
      = (flagsOf fields needsToken).map (some ·.name) := by
  have roots := inputTree_roots fields needsToken
  have names : (inputTree fields needsToken).roots.map (some <| Subject.flagName ·)
      = (flagsOf fields needsToken).map (some ·.name) := by
    have same := congrArg (List.map some) (flagsOf_names fields needsToken)
    rw [List.map_map] at same
    rw [roots, memberSubjects, List.map_append, List.map_map]
    cases needsToken <;> simpa [Function.comp_def, Subject.flagName] using same.symm
  have known : ∀ s ∈ (inputTree fields needsToken).roots,
      (∃ f ∈ fields, s = .member (FieldPath.member [] f.name) f) ∨ s = .token := by
    intro s root
    rw [roots, List.mem_append] at root
    rcases root with member | token
    · obtain ⟨f, there, rfl⟩ := List.mem_map.mp member
      exact .inl ⟨f, there, rfl⟩
    · cases needsToken with
      | false => exact absurd token (by simp)
      | true => exact .inr (List.mem_singleton.mp token)
  rw [← inputTree_lines, ← names]
  refine flagNamesAt_lines (fun s root => ?_) fun s root => ?_
  · rcases known s root with ⟨f, -, rfl⟩ | rfl
    · exact beginsFlag_member _ f
    · exact ⟨_, rfl⟩
  · rcases known s root with ⟨f, member, rfl⟩ | rfl
    · exact unbroken f member
    · exact List.forall_iff_forall_mem.mp (by decide)

end Outline

section Usage

variable {fields : List Field} {needsToken : Bool}

def shownOf (f : ExampleFlag) : ShownFlag := ⟨f.name, f.optional⟩

theorem shownFlag?_text {f : ExampleFlag} {line : String}
    (unbroken : ∀ c ∈ f.name.toList, isBlank c = false) (rest : List Char)
    (spelt : line.toList = List.replicate 5 ' ' ++ (f.text.toList ++ rest)) :
    shownFlag? line = some (shownOf f) := by
  have body : ("--" ++ f.name ++ " " ++ f.placeholder).toList
      = '-' :: '-' :: (f.name.toList ++ ' ' :: f.placeholder.toList) := by
    simp
  have read := flagNameAt?_name unbroken
  cases optional : f.optional with
  | false =>
    have text : f.text.toList ++ rest
        = '-' :: '-' :: (f.name.toList ++ ' ' :: (f.placeholder.toList ++ rest)) := by
      simp [ExampleFlag.text, optional, body]
    rw [shownFlag?, spelt, text, unindented_append, unindented_solid (by simp)]
    simp [read, shownOf, optional]
  | true =>
    have text : f.text.toList ++ rest
        = '[' :: '-' :: '-' :: (f.name.toList ++ ' ' :: (f.placeholder.toList ++ ']' :: rest)) := by
      simp [ExampleFlag.text, optional, body]
    rw [shownFlag?, spelt, text, unindented_append, unindented_solid (by simp)]
    simp [read, shownOf, optional]

theorem mapM_usageLines (command : String) (flags : List ExampleFlag)
    (unbroken : ∀ f ∈ flags, ∀ c ∈ f.name.toList, isBlank c = false) :
    (usageLines command flags).tail.mapM shownFlag? = some (flags.map shownOf) := by
  induction flags generalizing command with
  | nil => rfl
  | cons f flags ih =>
    have later := ih ("     " ++ f.text) fun g member => unbroken g (List.mem_cons_of_mem f member)
    have own : ∀ rest, shownFlag? ("     " ++ f.text ++ rest) = some (shownOf f) := fun rest =>
      shownFlag?_text (unbroken f List.mem_cons_self) rest.toList (by simp)
    rw [usageLines, List.tail_cons]
    cases flags with
    | nil =>
      have last := own ""
      rw [String.append_empty] at last
      simp [usageLines, last]
    | cons g flags =>
      rw [usageLines, List.tail_cons] at later
      rw [usageLines, List.mapM_cons, own, later]
      rfl

theorem filter_flagsOf : ((flagsOf fields needsToken).filter (·.required)).map Flag.name
    = (fields.filter (·.required)).map Field.name ++ if needsToken then [tokenName] else [] := by
  have members : ∀ used, ((flagsFrom used fields).filter (·.required)).map Flag.name
      = (fields.filter (·.required)).map Field.name := by
    induction fields with
    | nil => exact fun _ => rfl
    | cons f fields ih =>
      intro used
      rw [flagsFrom, List.filter_cons, List.filter_cons]
      cases required : f.required <;> simp [flagOf, required, ih]
  rw [flagsOf, List.filter_append, List.map_append, members]
  cases needsToken <;> rfl

theorem filter_exampleFlagOf (kept : List Field) :
    (kept.map exampleFlagOf).filter (!·.optional)
        = (kept.filter (·.required)).map exampleFlagOf
      ∧ (kept.map exampleFlagOf).filter (·.optional)
        = (kept.filter (!·.required)).map exampleFlagOf := by
  rw [List.filter_map, List.filter_map]
  simp [Function.comp_def, exampleFlagOf]

theorem usageFlags_names :
    ((usageFlags fields needsToken).filter (!·.optional)).map ExampleFlag.name
        = ((flagsOf fields needsToken).filter (·.required)).map Flag.name
      ∧ ((usageFlags fields needsToken).filter (·.optional)).map ExampleFlag.name
        = (fields.find? (!·.required)).toList.map Field.name := by
  have first : ∀ f ∈ (fields.find? (!·.required)).toList, f.required = false := by
    intro f member
    rw [Option.mem_toList] at member
    simpa using List.find?_some member
  have none : (fields.find? (!·.required)).toList.filter (·.required) = [] := by
    rw [List.filter_eq_nil_iff]
    exact fun f member => by simp [first f member]
  have all : (fields.find? (!·.required)).toList.filter (!·.required)
      = (fields.find? (!·.required)).toList := by
    rw [List.filter_eq_self]
    exact fun f member => by simp [first f member]
  rw [filter_flagsOf, usageFlags, List.take_one, List.head?_filter]
  simp only [List.filter_append, filter_exampleFlagOf, none, all, List.filter_filter]
  cases needsToken <;> simp [Function.comp_def, exampleFlagOf]

theorem usageFlags_unbroken (needsToken : Bool)
    (unbroken : ∀ f ∈ fields, ∀ c ∈ f.name.toList, isBlank c = false) :
    ∀ f ∈ usageFlags fields needsToken, ∀ c ∈ f.name.toList, isBlank c = false := by
  intro shown member
  rw [usageFlags, List.mem_append, List.mem_append] at member
  rcases member with (required | token) | optional
  · obtain ⟨f, there, rfl⟩ := List.mem_map.mp required
    exact unbroken f (List.mem_filter.mp there).1
  · cases needsToken with
    | false => exact absurd token (by simp)
    | true =>
      rw [List.mem_singleton.mp token]
      exact List.forall_iff_forall_mem.mp (by decide)
  · obtain ⟨f, there, rfl⟩ := List.mem_map.mp optional
    exact unbroken f (List.mem_filter.mp (List.mem_of_mem_take there)).1

/-- The example with flags alone shows, read line by line, the required flags without brackets and
the first member that may be left out, if there is one, in brackets. -/
theorem usageExample_shown (command : String)
    (unbroken : ∀ f ∈ fields, ∀ c ∈ f.name.toList, isBlank c = false) :
    ∃ shown, (usageLines command (usageFlags fields needsToken)).tail.mapM shownFlag? = some shown
      ∧ (shown.filter (!·.bracketed)).map ShownFlag.name
        = ((flagsOf fields needsToken).filter (·.required)).map Flag.name
      ∧ (shown.filter (·.bracketed)).map ShownFlag.name
        = (fields.find? (!·.required)).toList.map Field.name
      ∧ ((shown.filter (·.bracketed)).length = 1 ↔ ∃ f ∈ fields, f.required = false) := by
  obtain ⟨unbracketed, bracketed⟩ := @usageFlags_names fields needsToken
  have shown := mapM_usageLines command _ (usageFlags_unbroken needsToken unbroken)
  have names : ((usageFlags fields needsToken).map shownOf).filter (·.bracketed)
      = ((usageFlags fields needsToken).filter (·.optional)).map shownOf := List.filter_map
  have count : (((usageFlags fields needsToken).map shownOf).filter (·.bracketed)).length
      = (fields.find? (!·.required)).toList.length := by
    have lengths := congrArg List.length bracketed
    rw [List.length_map, List.length_map] at lengths
    rw [names, List.length_map, lengths]
  refine ⟨_, shown, ?_, ?_, ?_⟩
  · rw [List.filter_map, List.map_map]
    exact unbracketed
  · rw [names, List.map_map]
    exact bracketed
  · rw [count]
    cases found : fields.find? (!·.required) with
    | none =>
      rw [List.find?_eq_none] at found
      simpa using found
    | some f =>
      have optional : f.required = false := by simpa using List.find?_some found
      exact ⟨fun _ => ⟨f, List.mem_of_find?_eq_some found, optional⟩, fun _ => rfl⟩

end Usage

section Required

variable {fields : List Field} {needsToken : Bool}

theorem isTopLevel_of_plain {name : String} (plain : IsPlain name) : isTopLevel name = true := by
  rw [isTopLevel, List.all_eq_true]
  exact fun c member => by simp [plain.2 c member]

theorem not_isTopLevel_within {name : String} (filled : name ≠ "") {type : TypeTree}
    {p : FieldPath} (member : p ∈ requiredWithin (FieldPath.member [] name) type) :
    isTopLevel p.text = false := by
  obtain ⟨s, rest, rfl⟩ := requiredWithin_extends type member
  obtain ⟨c, among, mark⟩ :=
    @FieldPath.exists_mark_text (.member name) s filled rest
  rw [isTopLevel, Bool.eq_false_iff, ne_eq, List.all_eq_true]
  intro all
  exact absurd (all c among) (by simp [mark])

theorem filter_requiredPaths (plain : ∀ f ∈ fields, IsPlain f.name) :
    ((requiredPaths fields).map FieldPath.text).filter isTopLevel
      = (fields.filter (·.required)).map Field.name := by
  rw [requiredPaths]
  induction fields with
  | nil => rfl
  | cons f fields ih =>
    obtain ⟨name, type, required, documentation, isPayload⟩ := f
    have own : IsPlain name := plain _ List.mem_cons_self
    have text : FieldPath.text (FieldPath.member [] name) = name := FieldPath.appendText_empty name
    have within : ((requiredWithin (FieldPath.member [] name) type).map FieldPath.text).filter
        isTopLevel = [] := by
      rw [List.filter_eq_nil_iff]
      intro text member
      obtain ⟨p, path, rfl⟩ := List.mem_map.mp member
      simp [not_isTopLevel_within own.1 path]
    have later := ih fun g member => plain g (List.mem_cons_of_mem _ member)
    rw [requiredAmong, List.map_append, List.map_append, List.filter_append, List.filter_append,
      within, later]
    cases required <;> simp [text, isTopLevel_of_plain own]

end Required

section File

variable {fields : List Field} {needsToken : Bool}

theorem exampleValues_eq (differ : (fields.map Field.name).Nodup)
    (free : (needsToken && hasTokenMember fields) = false) :
    exampleValues fields needsToken = fields.map (fun f => (.str f.name, exampleValue f))
      ++ if needsToken then [(.str tokenName, .str "your_bearer_token_here")] else [] := by
  have keys : ((fields.map fun f => ((.str f.name, exampleValue f) : Key × Value)).map
      Prod.fst).Nodup := by
    rw [List.map_map]
    have texts := differ.map (f := Key.str) fun m n same => by simpa using same
    rwa [List.map_map] at texts
  have members := Entries.ofList_of_nodup keys (by simp)
  rw [exampleValues, members]
  cases needsToken with
  | false => simp
  | true =>
    have absent : ∀ entry ∈ fields.map fun f => ((.str f.name, exampleValue f) : Key × Value),
        entry.1 ≠ .str tokenName := by
      intro entry member same
      obtain ⟨f, there, rfl⟩ := List.mem_map.mp member
      have token : f.name = tokenName := by simpa using same
      have named : f.name ∈ fields.map Field.name := List.mem_map_of_mem there
      rw [token, ← hasTokenMember_eq_true] at named
      rw [named] at free
      exact absurd free (by decide)
    exact Entries.put_of_absent absent _

theorem exampleValue_isExact (f : Field) : (exampleValue f).IsExact := by
  unfold exampleValue
  split
  case h_1 => exact rfl
  case h_2 => exact ⟨by simp, ⟨_, rfl⟩, rfl, ⟨_, rfl⟩, rfl, trivial⟩
  case h_3 => exact ⟨rfl, rfl, trivial⟩
  case h_4 => split <;> exact rfl
  case h_5 => exact rfl

theorem fileExample_toList {text : List Char}
    (printed : Json.printValue exampleForm 0 (.map (exampleValues fields needsToken)) = some text) :
    (fileExample fields needsToken).toList
      = "JSON file format (params.json):".toList ++ '\n' :: text := by
  unfold fileExample
  rw [printed, Option.getD_some, String.toList_append, String.toList_ofList]
  simp

theorem behindFirstLine_append {title : List Char} (whole : ∀ c ∈ title, c ≠ '\n')
    (cs : List Char) : behindFirstLine (title ++ '\n' :: cs) = cs := by
  rw [behindFirstLine, List.dropWhile_append_of_pos fun c member => by simp [whole c member],
    List.dropWhile_cons_of_neg (by simp), List.tail_cons]

theorem exampleValues_keys (differ : (fields.map Field.name).Nodup)
    (free : (needsToken && hasTokenMember fields) = false) :
    (exampleValues fields needsToken).map Prod.fst
      = (flagsOf fields needsToken).map (.str ·.name) := by
  have names := congrArg (List.map Key.str) (flagsOf_names fields needsToken)
  rw [List.map_map] at names
  rw [exampleValues_eq differ free, List.map_append, List.map_map]
  cases needsToken <;> simpa [Function.comp_def] using names.symm

theorem exampleValues_nodup (differ : (fields.map Field.name).Nodup)
    (free : (needsToken && hasTokenMember fields) = false) :
    ((exampleValues fields needsToken).map Prod.fst).Nodup := by
  rw [exampleValues_keys differ free]
  have texts := (flagsOf_nodup differ free).map (f := Key.str) fun m n same => by simpa using same
  rwa [List.map_map] at texts

theorem readList_exampleValues (differ : (fields.map Field.name).Nodup)
    (free : (needsToken && hasTokenMember fields) = false) :
    Json.readList (behindFirstLine (fileExample fields needsToken).toList)
      = .ok (.map (exampleValues fields needsToken)) := by
  have known : ∀ entry ∈ exampleValues fields needsToken,
      (∃ name, entry.1 = .str name) ∧ entry.2.IsExact := by
    intro entry member
    rw [exampleValues_eq differ free, List.mem_append] at member
    rcases member with member | token
    · obtain ⟨f, -, rfl⟩ := List.mem_map.mp member
      exact ⟨⟨_, rfl⟩, exampleValue_isExact f⟩
    · cases needsToken with
      | false => exact absurd token (by simp)
      | true =>
        rw [List.mem_singleton.mp token]
        exact ⟨⟨_, rfl⟩, rfl⟩
  have kept : (Value.map (exampleValues fields needsToken)).IsExact :=
    ⟨exampleValues_nodup differ free, .of_forall known⟩
  obtain ⟨text, printed, own⟩ := Json.printValue_isTextOf exampleForm _ 0 kept
  have whole : ∀ c ∈ "JSON file format (params.json):".toList, c ≠ '\n' :=
    List.forall_iff_forall_mem.mp (by decide)
  rw [fileExample_toList printed, behindFirstLine_append whole]
  exact own.readList

theorem readList_fileExample (differ : (fields.map Field.name).Nodup)
    (free : (needsToken && hasTokenMember fields) = false) :
    ∃ entries,
      Json.readList (behindFirstLine (fileExample fields needsToken).toList) = .ok (.map entries)
        ∧ entries.map Prod.fst = (flagsOf fields needsToken).map (.str ·.name) :=
  ⟨_, readList_exampleValues differ free, exampleValues_keys differ free⟩

end File

section Plans

variable {op : Operation} {cli : String} {needsToken : Bool} {plan : Plan}

/-- The surfaces of a command agree: the flags at the top of its outline and the names in its
parameter file are its flags in their order, its usage example shows the required ones, and in
brackets the first that may be left out, and the required ones are the top of its required paths. -/
theorem planOf_surfaces (made : planOf op cli needsToken = .ok plan)
    (differ : (op.inputFields.map Field.name).Nodup)
    (plain : ∀ f ∈ op.inputFields, IsPlain f.name ∧ ∀ c ∈ f.name.toList, isBlank c = false) :
    plan.SurfacesAgree op.inputFields := by
  obtain ⟨free, rfl⟩ := planOf_eq_ok.mp made
  have unbroken := fun f member => (plain f member).2
  refine ⟨?outline, ?file, ?usage, ?required⟩
  case outline => exact flagNamesAt_outlineOf unbroken
  case file => exact readList_fileExample differ free
  case usage => exact usageExample_shown _ unbroken
  case required =>
    have members := filter_requiredPaths fun f member => (plain f member).1
    have token : [tokenName].filter isTopLevel = [tokenName] := by decide
    simp only [requiredTexts, List.filter_append, members, filter_flagsOf]
    cases needsToken <;> simp [token]

private def crate : Operation := ⟨"PutCrate", "/crates", "PUT", "", [], some ⟨"CrateInput", [
  ⟨"größe", .primitive "integer", false, "", false⟩,
  ⟨"parts", .list (.structure [⟨"parts", .primitive "string", true, "", false⟩]), true,
    "What\n    --it holds", false⟩,
  ⟨"--odd", .list (.primitive "string"), true, "", false⟩,
  ⟨"say\"hi", .document, false, "", false⟩,
  ⟨"photo", .blob true, true, "", false⟩]⟩, none, false⟩

/-- A member with dashes of its own, one with a quote, one beyond ASCII and documentation that looks
like a line of the outline. -/
theorem planOf_surfaces_crate :
    ∃ plan, planOf crate "demo" true = .ok plan
      ∧ (crate.inputFields.map Field.name).Nodup
      ∧ (∀ f ∈ crate.inputFields, IsPlain f.name ∧ ∀ c ∈ f.name.toList, isBlank c = false)
      ∧ plan.SurfacesAgree crate.inputFields
      ∧ plan.flags.map Flag.name = ["größe", "parts", "--odd", "say\"hi", "photo", "token"]
      ∧ plan.required = ["parts", "parts[].parts", "--odd", "photo", "token"]
      ∧ plan.usageExample = ["$ demo PutCrate \\", "     --parts <parts...> \\",
        "     ----odd <--odd...> \\", "     --photo <file-path> \\",
        "     --token <string> \\", "     [--größe <größe>]"] := by
  have differ : (crate.inputFields.map Field.name).Nodup := by decide
  have plain : ∀ f ∈ crate.inputFields,
      IsPlain f.name ∧ ∀ c ∈ f.name.toList, isBlank c = false := by
    intro f member
    simp only [crate, Operation.inputFields, List.mem_cons, List.not_mem_nil, or_false] at member
    rcases member with rfl | rfl | rfl | rfl | rfl
    all_goals exact ⟨isPlain_of_all (by decide) (by decide),
      List.forall_iff_forall_mem.mp (by decide)⟩
  have planned : planOf crate "demo" true = .ok _ := rfl
  exact ⟨_, planned, differ, plain, planOf_surfaces planned differ plain, by decide, by decide,
    by decide⟩

end Plans

end ServiceCli.Command
