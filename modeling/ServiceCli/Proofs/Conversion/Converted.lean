import ServiceCli.Parameters.Blob
import ServiceCli.Path.FieldPath
import ServiceCli.Proofs.Data.Entries
import ServiceCli.Proofs.Outcome
import ServiceCli.Shape.TypeTree

set_option autoImplicit false
set_option relaxedAutoImplicit false

namespace ServiceCli.Conversion

open ServiceCli.Data ServiceCli.Files ServiceCli.Path ServiceCli.Shape

/-- The content of the file that a value names: its bytes, or a stream at their beginning. Where
there is no such file, the path to the blob and the value say what is missing. -/
def blobContent (files : System) (streaming : Bool) (place : FieldPath) (v : Value) :
    Outcome Value :=
  let path := Files.Path.ofText (Literal.text v)
  match files.find path, files.isFile path with
  | .ok (.file bytes), _ => .ok (if streaming then .stream path.text 0 false else .bytes bytes)
  | _, .ok _ => .error (.blobNotFound place.text (Literal.text v))
  | _, .error e => .error e.failure

/-- Converts one after the other, up to the first failure. -/
def convertEach {α : Type} (convert : α → α × Option Failure) : List α → List α × Option Failure
  | [] => ([], none)
  | a :: rest =>
    match convert a with
    | (a, some e) => (a :: rest, some e)
    | (a, none) =>
      let (rest, failure) := convertEach convert rest
      (a :: rest, failure)

def convertEntry (convert : Value → Value × Option Failure) (entry : Key × Value) :
    (Key × Value) × Option Failure :=
  let (v, failure) := convert entry.2
  ((entry.1, v), failure)

/-- Converts the value under a name, when there is one. -/
def convertUnder (name : String) (convert : Value → Value × Option Failure) :
    Entries → Entries × Option Failure
  | [] => ([], none)
  | (k, v) :: rest =>
    if k = .str name then
      let (v, failure) := convert v
      ((k, v) :: rest, failure)
    else
      let (rest, failure) := convertUnder name convert rest
      ((k, v) :: rest, failure)

mutual
/-- A value of a type, converted. Null, and what is no container where one should be, stays. -/
def convertValue (files : System) (place : FieldPath) : TypeTree → Value → Value × Option Failure
  | .primitive _, v => (v, none)
  | .blob streaming, v =>
    if v = .null then (v, none)
    else match blobContent files streaming place v with
      | .ok content => (content, none)
      | .error e => (v, some e)
  | .document, v =>
    match v with
    | .null => (v, none)
    | .str _ => (v, none)
    | v => (match Json.print? Json.compact v with
      | some text => .str text
      | none => v, none)
  | .structure members, v =>
    match v with
    | .map entries =>
      let (entries, failure) := convertFields files place members entries
      (.map entries, failure)
    | v => (v, none)
  | .list member, v =>
    match v with
    | .list items =>
      let (items, failure) := convertEach (convertValue files place.element member) items
      (.list items, failure)
    | v => (v, none)
  | .map _ ⟨_, value, _, _, _⟩, v =>
    match v with
    | .map entries =>
      let (entries, failure) :=
        convertEach (convertEntry (convertValue files place.value value)) entries
      (.map entries, failure)
    | v => (v, none)
/-- The members of a structure, converted in the order in which they are declared. -/
def convertFields (files : System) (place : FieldPath) :
    List Field → Entries → Entries × Option Failure
  | [], entries => (entries, none)
  | ⟨name, type, _, _, _⟩ :: rest, entries =>
    match convertUnder name (convertValue files (place.member name) type) entries with
    | (entries, none) => convertFields files place rest entries
    | (entries, some e) => (entries, some e)
end

section Blob

variable {files : System} {path : Files.Path}

private theorem isFile_of_file {bytes : List UInt8} (found : files.find path = .ok (.file bytes)) :
    files.isFile path = .ok true := by
  rw [System.isFile, found]
  rfl

private theorem not_isFile_of_directory {entries : List (String × Tree)}
    (found : files.find path = .ok (.directory entries)) : files.isFile path = .ok false := by
  rw [System.isFile, found]
  rfl

private theorem not_isFile_of_error {e : PathError} (unfound : files.find path = .error e) :
    files.isFile path ≠ .ok true := by
  rw [System.isFile, unfound]
  cases e with
  | unnameable => simp [System.ask]
  | refused cause => cases cause <;> simp [System.ask]

private theorem blobPath_cases (files : System) (v : Value) (place : FieldPath) :
    (∃ bytes, files.find (.ofText (Literal.text v)) = .ok (.file bytes)
      ∧ Parameters.blobPath files v place.text = .ok (.ofText (Literal.text v)))
    ∨ ∃ e, Parameters.blobPath files v place.text = .error e
      ∧ ∀ streaming, blobContent files streaming place v = .error e := by
  cases found : files.find (.ofText (Literal.text v)) with
  | ok t =>
    cases t with
    | file bytes =>
      exact .inl ⟨bytes, rfl, by simp only [Parameters.blobPath, isFile_of_file found]⟩
    | directory entries =>
      have answer := not_isFile_of_directory found
      exact .inr ⟨_, by simp only [Parameters.blobPath, answer]; rfl,
        fun _ => by simp only [blobContent, found, answer]⟩
  | error cause =>
    refine .inr ?_
    cases answer : files.isFile (.ofText (Literal.text v)) with
    | error e =>
      exact ⟨_, by simp only [Parameters.blobPath, answer]; rfl,
        fun _ => by simp only [blobContent, found, answer]⟩
    | ok b =>
      cases b with
      | true => exact absurd answer (not_isFile_of_error found)
      | false =>
        exact ⟨_, by simp only [Parameters.blobPath, answer]; rfl,
          fun _ => by simp only [blobContent, found, answer]⟩

theorem readBlob_eq (files : System) (v : Value) (place : FieldPath) :
    Parameters.readBlob files v place.text = blobContent files false place v := by
  rcases blobPath_cases files v place with ⟨bytes, found, path⟩ | ⟨e, path, content⟩
  · have read : files.readBytes (.ofText (Literal.text v)) = .ok bytes := by
      rw [System.readBytes, found]
      rfl
    simp only [Parameters.readBlob, path, Outcome.ok_bind, read, blobContent, found]
    rfl
  · rw [Parameters.readBlob, path, content]
    rfl

theorem openBlob_eq (files : System) (v : Value) (place : FieldPath) :
    Parameters.openBlob files v place.text = blobContent files true place v := by
  rcases blobPath_cases files v place with ⟨bytes, found, path⟩ | ⟨e, path, content⟩
  · simp only [Parameters.openBlob, path, Outcome.ok_bind, blobContent, found]
    rfl
  · rw [Parameters.openBlob, path, content]
    rfl

end Blob

section Each

variable {α : Type} {convert : α → α × Option Failure}

theorem convertEach_cons_ok {a b : α} (step : convert a = (b, none)) (rest : List α) :
    convertEach convert (a :: rest)
      = (b :: (convertEach convert rest).1, (convertEach convert rest).2) := by
  rw [convertEach, step]

theorem convertEach_cons_error {a b : α} {e : Failure} (step : convert a = (b, some e))
    (rest : List α) : convertEach convert (a :: rest) = (b :: rest, some e) := by
  rw [convertEach, step]

theorem convertEach_of_still (still : ∀ a, convert a = (a, none)) (items : List α) :
    convertEach convert items = (items, none) := by
  induction items with
  | nil => rfl
  | cons a items ih => rw [convertEach_cons_ok (still a), ih]

end Each

section Under

variable {name : String} {convert : Value → Value × Option Failure} {entries : Entries}

theorem convertUnder_of_absent (absent : entries.get? name = none) :
    convertUnder name convert entries = (entries, none) := by
  induction entries with
  | nil => rfl
  | cons entry entries ih =>
    obtain ⟨k, v⟩ := entry
    by_cases same : k = .str name
    · subst same
      rw [Entries.get?_cons_str, if_pos rfl] at absent
      exact absurd absent (by simp)
    · rw [Entries.get?_cons_of_ne same] at absent
      rw [convertUnder, if_neg same, ih absent]

theorem convertUnder_append_cons {before after : Entries} {v : Value}
    (absent : ∀ entry ∈ before, entry.1 ≠ .str name) :
    convertUnder name convert (before ++ (.str name, v) :: after)
      = (before ++ (.str name, (convert v).1) :: after, (convert v).2) := by
  induction before with
  | nil => rw [List.nil_append, convertUnder, if_pos rfl, List.nil_append]
  | cons entry before ih =>
    obtain ⟨k, u⟩ := entry
    rw [List.cons_append, convertUnder, if_neg (absent (k, u) List.mem_cons_self),
      ih fun entry member => absent entry (List.mem_cons_of_mem _ member), List.cons_append]

theorem get?_convertUnder_of_ne {other : String} (differ : other ≠ name) :
    (convertUnder name convert entries).1.get? other = entries.get? other := by
  cases found : entries.get? name with
  | none => rw [convertUnder_of_absent found]
  | some v =>
    obtain ⟨before, after, rfl, absent⟩ := Entries.split_of_get? found
    rw [convertUnder_append_cons absent, ← Entries.put_append_cons absent]
    exact Entries.get?_put_of_ne differ _

theorem convertUnder_of_still (still : ∀ v, convert v = (v, none)) :
    convertUnder name convert entries = (entries, none) := by
  induction entries with
  | nil => rfl
  | cons entry entries ih =>
    obtain ⟨k, v⟩ := entry
    rw [convertUnder]
    split
    · rw [still v]
    · rw [ih]

end Under

section Fields

variable {files : System} {place : FieldPath} {f : Field} {rest : List Field}
  {entries changed : Entries}

theorem convertFields_cons_ok
    (step : convertUnder f.name (convertValue files (place.member f.name) f.type) entries
      = (changed, none)) :
    convertFields files place (f :: rest) entries = convertFields files place rest changed := by
  cases f
  rw [convertFields, step]

theorem convertFields_cons_error {e : Failure}
    (step : convertUnder f.name (convertValue files (place.member f.name) f.type) entries
      = (changed, some e)) :
    convertFields files place (f :: rest) entries = (changed, some e) := by
  cases f
  rw [convertFields, step]

end Fields

mutual
theorem convertValue_of_plain (files : System) : ∀ (type : TypeTree) (place : FieldPath)
    (v : Value), type.containsSpecial = false → convertValue files place type v = (v, none)
  | .primitive _, _, _, _ => rfl
  | .blob _, _, _, plain => absurd plain (by simp [TypeTree.containsSpecial])
  | .document, _, _, plain => absurd plain (by simp [TypeTree.containsSpecial])
  | .structure members, place, v, plain => by
    cases v with
    | map entries =>
      simp only [convertValue, convertFields_of_plain files members place entries plain]
    | _ => rfl
  | .list member, place, v, plain => by
    cases v with
    | list items =>
      have still := fun v => convertValue_of_plain files member place.element v plain
      simp only [convertValue, convertEach_of_still still]
    | _ => rfl
  | .map _ ⟨_, value, _, _, _⟩, place, v, plain => by
    cases v with
    | map entries =>
      have still := fun v => convertValue_of_plain files value place.value v plain
      have stillEntry : ∀ entry, convertEntry (convertValue files place.value value) entry
          = (entry, none) := fun entry => by rw [convertEntry, still]
      simp only [convertValue, convertEach_of_still stillEntry]
    | _ => rfl
theorem convertFields_of_plain (files : System) : ∀ (fields : List Field) (place : FieldPath)
    (entries : Entries), TypeTree.anySpecial fields = false →
    convertFields files place fields entries = (entries, none)
  | [], _, _, _ => rfl
  | ⟨name, type, _, _, _⟩ :: rest, place, entries, plain => by
    rw [TypeTree.anySpecial, Bool.or_eq_false_iff] at plain
    have still := fun v => convertValue_of_plain files type (place.member name) v plain.1
    rw [convertFields, convertUnder_of_still still]
    exact convertFields_of_plain files rest place entries plain.2
end

theorem get?_convertFields_of_plain (files : System) {name : String} {fields : List Field}
    (plain : ∀ f ∈ fields, f.name = name → f.type.containsSpecial = false) (place : FieldPath)
    (entries : Entries) : (convertFields files place fields entries).1.get? name
      = entries.get? name := by
  induction fields generalizing entries with
  | nil => rfl
  | cons f fields ih =>
    have later := ih fun g member => plain g (List.mem_cons_of_mem f member)
    have first : (convertUnder f.name (convertValue files (place.member f.name) f.type)
        entries).1.get? name = entries.get? name := by
      by_cases same : f.name = name
      · have still := fun v => convertValue_of_plain files f.type (place.member f.name) v
          (plain f List.mem_cons_self same)
        rw [convertUnder_of_still still]
      · exact get?_convertUnder_of_ne (Ne.symm same)
    cases step : convertUnder f.name (convertValue files (place.member f.name) f.type) entries with
    | mk changed failure =>
      rw [step] at first
      cases failure with
      | none => rw [convertFields_cons_ok step, later, first]
      | some e => rw [convertFields_cons_error step, first]

end ServiceCli.Conversion
