import Mathlib.Data.List.Infix
import ServiceCli.Proofs.Command.Parameter
import ServiceCli.Proofs.Command.Surface
import ServiceCli.Proofs.Parameters.Refusal

/-!
What the help of a command says of values. The description of a flag ends in a note on the way its
value is given; the notes tell the readings of flags apart, but for the flag of a list of numbers,
truth values or texts, whose note is that of JSON. The parameter file in the help has a value for
every flag, and inside none of them is anything required.
-/

set_option autoImplicit false
set_option relaxedAutoImplicit false

namespace ServiceCli.Command

open ServiceCli.Data ServiceCli.Files ServiceCli.Parameters ServiceCli.Path ServiceCli.Shape

/-! ### The notes of descriptions -/

def Tells (text phrase : String) : Prop := phrase.toList <:+: text.toList

instance (text phrase : String) : Decidable (Tells text phrase) :=
  decidable_of_iff (∃ rest ∈ text.toList.tails, phrase.toList.isPrefixOf rest = true) <| by
    simp only [Tells, List.infix_iff_prefix_suffix, List.mem_tails,
      List.isPrefixOf_iff_prefix, and_comm]

/-- The words of a note that asks for JSON. -/
def jsonPhrase : String := "(JSON or @file.json)"

/-- The words that a note begins with that asks for the path of a file, or for paths. -/
def filePhrase : String := "(file path"

/-- A list whose items have a primitive type: each is given in a repetition of its flag. -/
def IsPrimitiveList (type : TypeTree) : Prop := ∃ name, type = .list (.primitive name)

section Note

variable {type : TypeTree}

theorem readingOfPrimitive_plain (name : String) :
    readingOfPrimitive name ≠ .file ∧ ¬IsJsonReading (readingOfPrimitive name) := by
  unfold readingOfPrimitive IsJsonReading
  split_ifs <;> decide

theorem IsPrimitiveList.plain (items : IsPrimitiveList type) :
    isRepeatable type = true ∧ flagReading type ≠ .file ∧ ¬IsJsonReading (flagReading type) := by
  obtain ⟨name, rfl⟩ := items
  exact ⟨rfl, readingOfPrimitive_plain name⟩

/-- The note on the flag of a type, which is empty only for a primitive one. -/
inductive Noted : TypeTree → String → Prop
  | text (name : String) : Noted (.primitive name) ""
  | file {type : TypeTree} {note : String} :
    flagReading type = .file → Tells note filePhrase → ¬Tells note jsonPhrase → Noted type note
  | json {type : TypeTree} {note : String} :
    IsJsonReading (flagReading type) ∨ IsPrimitiveList type → Tells note jsonPhrase →
    ¬Tells note filePhrase → Noted type note

theorem readingNote_noted (type : TypeTree) : Noted type (readingNote type) := by
  have json {type : TypeTree} (takes : IsJsonReading (flagReading type) ∨ IsPrimitiveList type) :
      Noted type " (JSON or @file.json)" := .json takes (by decide) (by decide)
  cases type with
  | primitive name =>
    have empty : readingNote (.primitive name) = "" :=
      if_neg fun json => (readingOfPrimitive_plain name).2 (.inl json)
    exact empty ▸ .text name
  | blob streaming => cases streaming <;> exact .file rfl (by decide) (by decide)
  | document => exact json (.inl (.inr rfl))
  | list item =>
    cases item with
    | blob streaming =>
      exact @Noted.file _ " (file paths, repeat the flag)" rfl (by decide) (by decide)
    | primitive name => exact json (.inr ⟨name, rfl⟩)
    | document => exact json (.inl (.inr rfl))
    | _ => exact json (.inl (.inl rfl))
  | _ => exact json (.inl (.inl rfl))

theorem tells_filePhrase_iff (type : TypeTree) :
    Tells (readingNote type) filePhrase ↔ flagReading type = .file := by
  have noted := readingNote_noted type
  generalize readingNote type = note at noted ⊢
  cases noted with
  | text name => exact iff_of_false (by decide) (readingOfPrimitive_plain name).1
  | file takes asks _ => exact iff_of_true asks takes
  | json takes _ none =>
    refine iff_of_false none fun file => ?_
    rcases takes with json | items
    · rw [file] at json
      exact absurd json (by simp [IsJsonReading])
    · exact items.plain.2.1 file

theorem tells_jsonPhrase_iff (type : TypeTree) : Tells (readingNote type) jsonPhrase ↔
    IsJsonReading (flagReading type) ∨ IsPrimitiveList type := by
  have noted := readingNote_noted type
  generalize readingNote type = note at noted ⊢
  cases noted with
  | text name =>
    refine iff_of_false (by decide) (not_or.mpr ⟨(readingOfPrimitive_plain name).2, ?_⟩)
    exact fun ⟨_, same⟩ => nomatch same
  | file takes _ none =>
    refine iff_of_false none (not_or.mpr ⟨?_, fun items => items.plain.2.1 takes⟩)
    simp [IsJsonReading, takes]
  | json takes asks _ => exact iff_of_true asks takes

theorem readArgument_atom {files : System} {reading : Reading} {option text : String} {v : Value}
    (plain : ¬IsJsonReading reading)
    (told : readArgument files reading option (.str text) = .ok v) : ∃ a, v = .atom a := by
  cases reading with
  | text => exact ⟨_, (Except.ok.inj told).symm⟩
  | integer =>
    rw [readArgument, readInteger] at told
    split at told
    · exact ⟨_, (Except.ok.inj told).symm⟩
    · cases told
  | float =>
    rw [readArgument, readFloat] at told
    split at told
    · exact ⟨_, (Except.ok.inj told).symm⟩
    · cases told
  | boolean =>
    rw [readArgument, readBoolean] at told
    generalize Text.lower (Text.strip (Literal.text (.str text))) = word at told
    split_ifs at told
    · exact ⟨_, (Except.ok.inj told).symm⟩
    · exact ⟨_, (Except.ok.inj told).symm⟩
    · cases told
  | file =>
    rw [readArgument, readFilePath] at told
    split at told
    · exact ⟨_, (Except.ok.inj told).symm⟩
    · cases told
    · cases told
  | json => exact absurd (.inl rfl) plain
  | document => exact absurd (.inr rfl) plain

/-- What the description of a member's flag says first. -/
def describedText (f : Field) : String :=
  if f.documentation.isEmpty then f.name ++ " parameter" else f.documentation

/-- The description of the flag of a member ends in a note on the way its value is given, and the
mark of a required one. The note asks for a file just where the flag takes one. It asks for JSON
where the flag takes it, and besides where the flag is repeated for items of a primitive type: it
takes the text of one item then, and reads no text as an array. -/
theorem description_note {fields : List Field} {i : Nat} {f : Field}
    (member : fields[i]? = some f) (needsToken : Bool) :
    ∃ flag note, (flagsOf fields needsToken)[i]? = some flag ∧ flag.name = f.name
      ∧ flag.description = describedText f ++ note ++ (if f.required then " [required]" else "")
      ∧ (Tells note filePhrase ↔ flag.reading = .file)
      ∧ (Tells note jsonPhrase ↔ IsJsonReading flag.reading ∨ IsPrimitiveList f.type)
      ∧ (IsPrimitiveList f.type → flag.repeatable = true ∧ ¬IsJsonReading flag.reading
        ∧ ∀ files text v, readArgument files flag.reading flag.option (.str text) = .ok v →
          ∃ a, v = .atom a) := by
  obtain ⟨parameter, flag, -⟩ := flagsFrom_renames reservedNames member
  have within : i < (flagsFrom reservedNames fields).length :=
    (List.getElem?_eq_some_iff.mp flag).1
  refine ⟨flagOf parameter f, readingNote f.type, ?place, rfl, rfl, tells_filePhrase_iff f.type,
    tells_jsonPhrase_iff f.type, ?items⟩
  case place => rwa [flagsOf, List.getElem?_append_left within]
  case items =>
    intro items
    obtain ⟨repeated, -, plain⟩ := items.plain
    exact ⟨repeated, plain, fun files text v told => readArgument_atom plain told⟩

end Note

private def shelfFields : List Field := [
  ⟨"tags", .list (.primitive "string"), false, "", false⟩,
  ⟨"sizes", .list (.primitive "integer"), true, "In inches", false⟩,
  ⟨"notes", .list .document, false, "", false⟩,
  ⟨"photos", .list (.blob false), true, "", false⟩]

/-- A list of texts, whose flag the help gives the note of JSON, but which takes an array for the
text of one item; beside it a list of documents. -/
theorem description_note_shelf :
    shelfFields[0]? = some ⟨"tags", .list (.primitive "string"), false, "", false⟩
      ∧ (flagsOf shelfFields true).map Flag.description = ["tags parameter (JSON or @file.json)",
        "In inches (JSON or @file.json) [required]", "notes parameter (JSON or @file.json)",
        "photos parameter (file paths, repeat the flag) [required]",
        "Bearer token for authentication"]
      ∧ ∃ flag, (flagsOf shelfFields true)[0]? = some flag ∧ flag.repeatable = true
        ∧ ¬IsJsonReading flag.reading := by
  have first : shelfFields[0]? = some ⟨"tags", .list (.primitive "string"), false, "", false⟩ := rfl
  obtain ⟨flag, note, place, -, -, -, -, items⟩ := description_note first true
  obtain ⟨repeated, plain, -⟩ := items ⟨"string", rfl⟩
  exact ⟨first, by decide +kernel, flag, place, repeated, plain⟩

/-- The flag of a list of texts asks for JSON and takes an array for a text; that of a list of whole
numbers asks for JSON and refuses an array. -/
theorem description_note_unread :
    ∃ tags sizes note, (flagsOf shelfFields false).take 2 = [tags, sizes]
      ∧ tags.description = "tags parameter" ++ note
      ∧ sizes.description = "In inches" ++ note ++ " [required]"
      ∧ Tells note jsonPhrase
      ∧ ¬IsJsonReading tags.reading ∧ ¬IsJsonReading sizes.reading
      ∧ (∀ files, readArgument files tags.reading tags.option (.str "[\"a\", \"b\"]")
        = .ok (.str "[\"a\", \"b\"]"))
      ∧ ∀ files, readArgument files sizes.reading sizes.option (.str "[1, 2]")
        = unexpected "--sizes" "an integer" (.str "[1, 2]") := by
  refine ⟨flagOf "tags" ⟨"tags", .list (.primitive "string"), false, "", false⟩,
    flagOf "sizes" ⟨"sizes", .list (.primitive "integer"), true, "In inches", false⟩,
    " (JSON or @file.json)", by decide +kernel, by decide, by decide, by decide, ?_, ?_,
    fun _ => rfl, fun _ => rfl⟩
  · exact not_or.mpr ⟨by decide, by decide⟩
  · exact not_or.mpr ⟨by decide, by decide⟩

/-! ### The example file -/

section Example

variable {fields : List Field} {needsToken : Bool}

theorem missingAt_str (l : Location) (p : FieldPath) (s : String) :
    missingAt l p (.str s) = [] := by
  cases p with
  | nil => rfl
  | cons step rest => cases step <;> rfl

/-- In the value that stands for a member nothing is missing that is reached within its type: a
structure and a map are shown as a text, and so is every item of a list. -/
theorem missingAt_exampleValue {f g : Field} {p : FieldPath} (reached : Reached f.type p g)
    (l : Location) : missingAt l p (exampleValue f) = [] := by
  obtain ⟨name, type, required, documentation, isPayload⟩ := f
  cases reached with
  | element _ =>
    rw [exampleValue, missingAt, List.flatMap_eq_nil_iff]
    rintro ⟨v, i⟩ item
    rw [List.mem_zipIdx_iff_getElem?] at item
    have text : v ∈ [Value.str "item1", .str "item2"] := List.mem_of_getElem? item
    simp only [List.mem_cons, List.not_mem_nil, or_false] at text
    rcases text with rfl | rfl
    · exact missingAt_str _ _ _
    · exact missingAt_str _ _ _
  | member _ => exact missingAt_str l _ _
  | within _ _ => exact missingAt_str l _ _
  | value _ => exact missingAt_str l _ _

theorem missingAt_exampleValue_nil (f : Field) (l : Location) :
    missingAt l [] (exampleValue f) = [] := by
  unfold exampleValue
  split
  case h_4 => split <;> rfl
  all_goals rfl

/-- A required text is read as the path to a member that is reached from the input, or to the
token. -/
theorem reached_of_requiredTexts (plain : NamesHave IsPlain fields) {p : FieldPath}
    (member : p ∈ (requiredTexts fields needsToken).map parsePath) :
    (∃ f, Reached (.structure fields) p f) ∨ needsToken = true ∧ p = [.member tokenName] := by
  have members := parsed_requiredTexts plain
  rw [requiredTexts, if_neg (by simp), List.append_nil] at members
  rw [requiredTexts, List.map_append, members, List.mem_append] at member
  rcases member with inside | token
  · obtain ⟨f, reached, -⟩ := mem_requiredPaths_iff.mp inside
    exact .inl ⟨f, reached⟩
  · cases needsToken with
    | false => exact absurd token (by simp)
    | true => exact .inr ⟨rfl, List.mem_singleton.mp token⟩

variable (differ : (fields.map Field.name).Nodup)
variable (free : (needsToken && hasTokenMember fields) = false)

include differ free

theorem field_exampleValues {name : String} {v : Value}
    (member : (.str name, v) ∈ exampleValues fields needsToken) :
    Value.field (exampleValues fields needsToken) name = v := by
  rw [Value.field, Entries.get?_of_mem (exampleValues_nodup differ free) member, Option.getD_some]

theorem missingAt_exampleValues {f : Field} {p : FieldPath}
    (reached : Reached (.structure fields) p f) :
    p ≠ [] ∧ missingAt [] p (.map (exampleValues fields needsToken)) = [] := by
  have shown : ∀ g ∈ fields,
      Value.field (exampleValues fields needsToken) g.name = exampleValue g := by
    intro g member
    refine field_exampleValues differ free ?_
    rw [exampleValues_eq differ free]
    exact List.mem_append_left _ (List.mem_map.mpr ⟨g, member, rfl⟩)
  cases reached with
  | member member =>
    refine ⟨nofun, ?_⟩
    rw [missingAt, shown _ member]
    exact missingAt_exampleValue_nil f _
  | within member inner =>
    refine ⟨nofun, ?_⟩
    rw [missingAt, shown _ member]
    exact missingAt_exampleValue inner _

theorem missingAt_token (needed : needsToken = true) :
    missingAt [] [.member tokenName] (.map (exampleValues fields needsToken)) = [] := by
  have given : (.str tokenName, .str "your_bearer_token_here")
      ∈ exampleValues fields needsToken := by
    rw [exampleValues_eq differ free, if_pos needed]
    exact List.mem_append_right _ List.mem_cons_self
  rw [missingAt, field_exampleValues differ free given]
  rfl

/-- The parameter file that the help shows is read as the values that it shows, and these pass the
check of the command's required parameters, whatever is required inside the members. -/
theorem validate_fileExample (plain : NamesHave IsPlain fields) :
    Json.readList (behindFirstLine (fileExample fields needsToken).toList)
        = .ok (.map (exampleValues fields needsToken))
      ∧ validate (.map (exampleValues fields needsToken)) (requiredTexts fields needsToken)
        = .ok () := by
  refine ⟨readList_exampleValues differ free, ?_⟩
  have each : ∀ p ∈ (requiredTexts fields needsToken).map parsePath,
      p ≠ [] ∧ missingAt [] p (.map (exampleValues fields needsToken)) = [] := by
    intro p member
    rcases reached_of_requiredTexts plain member with ⟨f, reached⟩ | ⟨needed, rfl⟩
    · exact missingAt_exampleValues differ free reached
    · exact ⟨nofun, missingAt_token differ free needed⟩
  have filled : ((requiredTexts fields needsToken).map parsePath).any List.isEmpty = false := by
    rw [List.any_eq_false]
    exact fun p member => by simpa using (each p member).1
  have none : missing (.map (exampleValues fields needsToken))
      ((requiredTexts fields needsToken).map parsePath) = [] := by
    rw [missing, List.flatMap_eq_nil_iff]
    exact fun p member => (each p member).2
  simp [validate, filled, none]

end Example

private def benchFields : List Field := [
  ⟨"owner", .structure [⟨"name", .primitive "string", true, "", false⟩,
    ⟨"marks", .list (.structure [⟨"key", .document, true, "", false⟩]), true, "", false⟩],
    true, "", false⟩,
  ⟨"parts", .list (.map ⟨"key", .primitive "string", false, "", false⟩
    ⟨"value", .structure [⟨"token", .primitive "long", true, "", false⟩], true, "", false⟩),
    true, "", false⟩,
  ⟨"größe", .primitive "integer", true, "", false⟩,
  ⟨"plan", .blob true, true, "", false⟩]

/-- Members that are required inside a structure, a list and a map, one of the token's name among
them: the check asks for each, and not one is asked for in a text. -/
theorem validate_fileExample_bench :
    NamesHave IsPlain benchFields ∧ (benchFields.map Field.name).Nodup
      ∧ (true && hasTokenMember benchFields) = false
      ∧ requiredTexts benchFields true = ["owner", "owner.name", "owner.marks", "owner.marks[].key",
        "parts", "parts[]\x7bvalue\x7d.token", "größe", "plan", "token"]
      ∧ validate (.map (exampleValues benchFields true)) (requiredTexts benchFields true)
        = .ok () := by
  have plain : NamesHave IsPlain benchFields := by
    simp only [benchFields, NamesHave, TypeTree.NamesHave, and_true, true_and, and_assoc]
    refine ⟨?_, ?_, ?_, ?_, ?_, ?_, ?_, ?_⟩ <;> exact isPlain_of_all (by decide) (by decide)
  have differ : (benchFields.map Field.name).Nodup := by decide
  have free : (true && hasTokenMember benchFields) = false := by decide
  exact ⟨plain, differ, free, by decide, (validate_fileExample differ free plain).2⟩

end ServiceCli.Command
