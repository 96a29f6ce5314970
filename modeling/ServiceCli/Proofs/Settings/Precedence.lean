import Mathlib.Tactic.ByContra
import ServiceCli.Proofs.Data.JsonValue
import ServiceCli.Settings.Resolve

/-!
Which value a setting gets. Main statement: each setting has one winning value, from the first layer
that says something about it; resolving succeeds when all winning values are admissible and gives
them, and otherwise names the settings whose values are not, in the order of the settings. What a
layer above overrides is not heard.
-/

set_option autoImplicit false
set_option relaxedAutoImplicit false

namespace ServiceCli.Settings

open ServiceCli.Data ServiceCli.Files

def valueOf : Option String → Value
  | some text => .str text
  | none => .null

/-- The command line says nothing about a setting, or null. -/
def IsSilent (given : Entries) (field : Setting) : Prop :=
  ∀ v, given.get? field.name = some v → v = .null

/-- The environment says nothing about a setting: it has no variable, or one that is empty. -/
def IsUnset (w : World) (field : Setting) : Prop :=
  ∀ key text, field.environmentName? = some key → w.lookup key = some text →
    text = ""

/-- A value wins a setting when its layer says something and no layer above does. -/
inductive Wins (w : World) (project given : Entries) (field : Setting) : Value → Prop
  | commandLine {v : Value} : given.get? field.name = some v → v ≠ .null →
    Wins w project given field v
  | environment {key text : String} : IsSilent given field →
    field.environmentName? = some key → w.lookup key = some text → text ≠ "" →
    Wins w project given field (.str text)
  | project {v : Value} : IsSilent given field → IsUnset w field →
    project.get? field.name = some v → Wins w project given field v
  | default : IsSilent given field → IsUnset w field → project.get? field.name = none →
    Wins w project given field (valueOf field.default?)

/-- A text is admissible for every setting, null for one that may be absent. -/
def IsAdmissible (field : Setting) (v : Value) : Prop :=
  (∃ text, v = .str text) ∨ v = .null ∧ field.default? = none

instance (field : Setting) (v : Value) : Decidable (IsAdmissible field v) :=
  match v with
  | .str text => isTrue (.inl ⟨text, rfl⟩)
  | .null => decidable_of_iff (field.default? = none) (by simp [IsAdmissible])
  | .bool _ | .int _ | .float _ | .bytes _ | .atom (.moment _) | .list _ | .tuple _ | .set _
  | .map _ | .stream _ _ _ | .record _ | .report _ | .account _ _ | .opaqueText _ _ =>
    isFalse (by simp [IsAdmissible])

/-- What is heard about a setting is the same in two surroundings: what they say on the command
line, in the environment where that is silent, and in the project where both are. -/
structure HeardAlike (w w' : World) (project project' given given' : Entries) (field : Setting) :
    Prop where
  commandLine : ∀ v, v ≠ .null →
    (given.get? field.name = some v ↔ given'.get? field.name = some v)
  environment : IsSilent given field → ∀ key text, field.environmentName? = some key →
    text ≠ "" → (w.lookup key = some text ↔ w'.lookup key = some text)
  project : IsSilent given field → IsUnset w field →
    project.get? field.name = project'.get? field.name

section Winner

variable {w w' : World} {project project' given given' : Entries} {field : Setting} {v : Value}

theorem fromCommandLine_eq_some :
    fromCommandLine given field = some v ↔ given.get? field.name = some v ∧ v ≠ .null := by
  unfold fromCommandLine
  split
  · rename_i null
    constructor
    · intro said
      cases said
    · rintro ⟨found, differ⟩
      cases null.symm.trans found
      exact absurd rfl differ
  · rename_i other
    constructor
    · intro found
      refine ⟨found, ?_⟩
      rintro rfl
      exact other found
    · exact And.left

theorem fromCommandLine_eq_none : fromCommandLine given field = none ↔ IsSilent given field := by
  rw [Option.eq_none_iff_forall_ne_some]
  constructor
  · intro none v found
    by_contra differ
    exact none v (fromCommandLine_eq_some.mpr ⟨found, differ⟩)
  · intro silent v said
    obtain ⟨found, differ⟩ := fromCommandLine_eq_some.mp said
    exact differ (silent v found)

theorem fromEnvironment_eq_some : fromEnvironment w field = some v ↔
    ∃ key text, field.environmentName? = some key ∧ w.lookup key = some text ∧
      text ≠ "" ∧ v = .str text := by
  simp only [fromEnvironment, Option.bind_eq_bind, Option.bind_eq_some_iff]
  constructor
  · rintro ⟨key, named, text, found, said⟩
    split at said
    · cases said
    · rename_i filled
      refine ⟨key, text, named, found, ?_, (Option.some.inj said).symm⟩
      simpa using filled
  · rintro ⟨key, text, named, found, filled, rfl⟩
    refine ⟨key, named, text, found, ?_⟩
    simp [filled]

theorem fromEnvironment_eq_none : fromEnvironment w field = none ↔ IsUnset w field := by
  rw [Option.eq_none_iff_forall_ne_some]
  constructor
  · intro none key text named found
    by_contra filled
    exact none _ (fromEnvironment_eq_some.mpr ⟨key, text, named, found, filled, rfl⟩)
  · intro unset v said
    obtain ⟨key, text, named, found, filled, -⟩ := fromEnvironment_eq_some.mp said
    exact filled (unset key text named found)

/-- The value that a layer gives to a setting, or its default where none says anything. -/
def valueFrom (field : Setting) (said : Option Value) : Value := said.getD (valueOf field.default?)

def winning (w : World) (project given : Entries) (field : Setting) : Value :=
  valueFrom field (winner w project given field)

theorem wins_winning (w : World) (project given : Entries) (field : Setting) :
    Wins w project given field (winning w project given field) := by
  rw [winning, valueFrom, winner]
  cases line : fromCommandLine given field with
  | some v =>
    obtain ⟨found, differ⟩ := fromCommandLine_eq_some.mp line
    exact .commandLine found differ
  | none =>
    have silent := fromCommandLine_eq_none.mp line
    cases key : fromEnvironment w field with
    | some v =>
      obtain ⟨name, text, named, found, filled, rfl⟩ := fromEnvironment_eq_some.mp key
      exact .environment silent named found filled
    | none =>
      have unset := fromEnvironment_eq_none.mp key
      cases entry : project.get? field.name with
      | some v => exact .project silent unset entry
      | none => exact .default silent unset entry

theorem Wins.eq_winning (wins : Wins w project given field v) :
    v = winning w project given field := by
  rw [winning, valueFrom, winner]
  cases wins with
  | commandLine found differ =>
    rw [fromCommandLine_eq_some.mpr ⟨found, differ⟩]
    rfl
  | environment silent named found filled =>
    rw [fromCommandLine_eq_none.mpr silent,
      fromEnvironment_eq_some.mpr ⟨_, _, named, found, filled, rfl⟩]
    rfl
  | project silent unset found =>
    rw [fromCommandLine_eq_none.mpr silent, fromEnvironment_eq_none.mpr unset, found]
    rfl
  | default silent unset absent =>
    rw [fromCommandLine_eq_none.mpr silent, fromEnvironment_eq_none.mpr unset, absent]
    rfl

theorem Wins.of_heardAlike (wins : Wins w project given field v)
    (alike : HeardAlike w w' project project' given given' field) :
    Wins w' project' given' field v := by
  have still : IsSilent given field → IsSilent given' field := by
    intro silent v found
    by_contra differ
    exact differ (silent v ((alike.commandLine v differ).mpr found))
  have unsaid : IsSilent given field → IsUnset w field → IsUnset w' field := by
    intro silent unset key text named found
    by_contra filled
    exact filled (unset key text named
      ((alike.environment silent key text named filled).mpr found))
  cases wins with
  | commandLine found differ => exact .commandLine ((alike.commandLine v differ).mp found) differ
  | environment silent named found filled =>
    have also := (alike.environment silent _ _ named filled).mp found
    exact .environment (still silent) named also filled
  | project silent unset found =>
    exact .project (still silent) (unsaid silent unset) (alike.project silent unset ▸ found)
  | default silent unset absent =>
    exact .default (still silent) (unsaid silent unset) (alike.project silent unset ▸ absent)

end Winner

section Accepting

variable {field : Setting} {said : Option Value} {v : Value}

def textOf : Value → Option String
  | .str text => some text
  | _ => none

theorem textOf_valueOf (text : Option String) : textOf (valueOf text) = text := by
  cases text <;> rfl

theorem IsAdmissible.valueOf_textOf (admissible : IsAdmissible field v) :
    valueOf (textOf v) = v := by
  rcases admissible with ⟨text, rfl⟩ | ⟨rfl, -⟩ <;> rfl

/-- The text that a layer, or the default, gives to a setting, unless it is refused. -/
def textFrom? (field : Setting) : Option Value → Option (Option String)
  | some v => admitted? field v
  | none => some field.default?

theorem textFrom?_eq_some (noBytes : ∀ bs, said ≠ some (.bytes bs)) (text : Option String) :
    textFrom? field said = some text ↔
      IsAdmissible field (valueFrom field said) ∧ valueOf text = valueFrom field said := by
  match said with
  | none =>
    cases absent : field.default? <;> cases text <;>
      simp [textFrom?, valueFrom, IsAdmissible, valueOf, absent, eq_comm]
  | some (.str s) =>
    cases text <;> simp [textFrom?, valueFrom, admitted?, IsAdmissible, valueOf, eq_comm]
  | some .null =>
    cases absent : field.default? <;> cases text <;>
      simp [textFrom?, valueFrom, admitted?, IsAdmissible, valueOf, absent]
  | some (.bytes bs) => exact absurd rfl (noBytes bs)
  | some (.bool _) | some (.int _) | some (.float _) | some (.atom (.moment _)) | some (.list _)
  | some (.tuple _) | some (.set _) | some (.map _) | some (.stream _ _ _) | some (.record _)
  | some (.report _) | some (.account _ _) | some (.opaqueText _ _) =>
    simp [textFrom?, valueFrom, admitted?, IsAdmissible]

theorem textFrom?_eq_none (noBytes : ∀ bs, said ≠ some (.bytes bs)) :
    textFrom? field said = none ↔ ¬IsAdmissible field (valueFrom field said) := by
  constructor
  · intro refused admissible
    have taken := (textFrom?_eq_some noBytes _).mpr ⟨admissible, admissible.valueOf_textOf⟩
    cases refused.symm.trans taken
  · intro inadmissible
    cases admits : textFrom? field said with
    | none => rfl
    | some text => exact absurd ((textFrom?_eq_some noBytes text).mp admits).1 inadmissible

end Accepting

section Resolving

variable {w : World} {given : Entries} {directory : Path} {project : Option Entries}

theorem loadProject_isJson {files : System} {entries : Entries}
    (loaded : loadProject files directory = .ok (some entries)) : (Value.map entries).IsJson := by
  simp only [loadProject] at loaded
  split at loaded
  · cases loaded
  · cases loaded
  · split at loaded
    · cases loaded
    · cases loaded
    · obtain ⟨read, parsed, same⟩ := Outcome.bind_eq_ok.mp loaded
      cases same
      unfold readProject at parsed
      split at parsed
      · cases parsed
      · rename_i told
        cases parsed
        exact Json.read_isJson told
      · cases parsed

/-- Bytes win a setting only on the command line: the environment holds texts, and a project file
what is known to JSON. -/
theorem winner_ne_bytes (loaded : loadProject w.files directory = .ok project)
    (noBytes : ∀ (field : Setting) bs, given.get? field.name ≠ some (.bytes bs)) (field : Setting)
    (bs : List UInt8) : winner w (project.getD []) given field ≠ some (.bytes bs) := by
  intro won
  have wins := wins_winning w (project.getD []) given field
  rw [winning, won, valueFrom, Option.getD_some] at wins
  generalize same : Value.bytes bs = v at wins
  cases wins with
  | commandLine found => exact noBytes field bs (same ▸ found)
  | environment => cases same
  | project _ _ found =>
    cases project with
    | none => cases found
    | some entries =>
      have json := ((loadProject_isJson loaded).2.of_mem (Entries.mem_of_get? found)).2
      rw [← same] at json
      exact nomatch json
  | default => cases absent : field.default? <;> simp [valueOf, absent] at same

/-- The settings with an inadmissible value, in the order of the settings. -/
def inadmissible (win : Setting → Value) : List Setting :=
  Setting.all.filter fun field => ¬IsAdmissible field (win field)

theorem inadmissible_eq_nil {win : Setting → Value} :
    inadmissible win = [] ↔ ∀ field, IsAdmissible field (win field) := by
  have all : ∀ field, field ∈ Setting.all := by
    intro field
    cases field <;> decide
  rw [inadmissible, List.filter_eq_nil_iff]
  constructor
  · intro empty field
    simpa using empty field (all field)
  · intro every field _
    simpa using every field

/-- The settings with these values, or the failure that names the inadmissible ones. -/
def settle (win : Setting → Value) : Outcome Settings :=
  match inadmissible win with
  | [] => .ok fun field => textOf (win field)
  | refused => .error (.config (.invalidSettings (refused.map Setting.name)))

theorem settle_eq_ok {win : Setting → Value} {s : Settings} : settle win = .ok s ↔
    (∀ field, IsAdmissible field (win field)) ∧ ∀ field, valueOf (s field) = win field := by
  rw [settle, ← inadmissible_eq_nil]
  cases refused : inadmissible win with
  | cons field fields => simp
  | nil =>
    have all := inadmissible_eq_nil.mp refused
    constructor
    · rintro ⟨⟩
      exact ⟨rfl, fun field => (all field).valueOf_textOf⟩
    · rintro ⟨-, texts⟩
      refine congrArg Except.ok (funext fun field => ?_)
      rw [← texts field, textOf_valueOf]

theorem settle_of_not {win : Setting → Value} (refused : ∃ field, ¬IsAdmissible field (win field)) :
    settle win = .error (.config (.invalidSettings ((inadmissible win).map Setting.name))) := by
  have filled : inadmissible win ≠ [] := by
    intro empty
    obtain ⟨field, inadmissible⟩ := refused
    exact inadmissible (inadmissible_eq_nil.mp empty field)
  rw [settle]
  split
  · rename_i empty
    exact absurd empty filled
  · rfl

/-- Resolving looks at nothing but the winning values. -/
theorem resolve_eq_settle (loaded : loadProject w.files directory = .ok project)
    (noBytes : ∀ (field : Setting) bs, given.get? field.name ≠ some (.bytes bs)) :
    resolve w given directory = settle (winning w (project.getD []) given) := by
  have clear := winner_ne_bytes loaded noBytes
  have named : (Setting.all.filter fun field =>
      (textFrom? field (winner w (project.getD []) given field)).isNone)
        = inadmissible (winning w (project.getD []) given) := by
    refine List.filter_congr fun field _ => ?_
    rw [Bool.eq_iff_iff, Option.isNone_iff_eq_none, textFrom?_eq_none (clear field)]
    exact decide_eq_true_iff.symm
  have accepts : accept (winner w (project.getD []) given)
      = match inadmissible (winning w (project.getD []) given) with
        | [] => .ok fun field =>
          (textFrom? field (winner w (project.getD []) given field)).getD none
        | refused => .error refused := by
    rw [← named, accept]
    rfl
  rw [resolve, loaded, Outcome.ok_bind, accepts, settle]
  cases none : inadmissible (winning w (project.getD []) given) with
  | cons field fields => rfl
  | nil =>
    refine congrArg Except.ok (funext fun field => ?_)
    have admissible := inadmissible_eq_nil.mp none field
    have taken := (textFrom?_eq_some (clear field) _).mpr ⟨admissible, admissible.valueOf_textOf⟩
    rw [taken]
    rfl

/-- Each setting has one winning value. Resolving gives every setting its winning value when all of
them are admissible, and otherwise names the settings whose winning values are not; what else is
said has no influence. Bytes are left aside, since they count as the text that they encode. -/
theorem resolve_winning (loaded : loadProject w.files directory = .ok project)
    (noBytes : ∀ (field : Setting) bs, given.get? field.name ≠ some (.bytes bs)) :
    ∃ win : Setting → Value,
      (∀ field v, Wins w (project.getD []) given field v ↔ v = win field) ∧
      ((∃ s, resolve w given directory = .ok s) ↔ ∀ field, IsAdmissible field (win field)) ∧
      (∀ s, resolve w given directory = .ok s → ∀ field, valueOf (s field) = win field) ∧
      ((∃ field, ¬IsAdmissible field (win field)) → resolve w given directory
        = .error (.config (.invalidSettings ((inadmissible win).map Setting.name)))) ∧
      ∀ (w' : World) (given' : Entries) (directory' : Path) (project' : Option Entries),
        loadProject w'.files directory' = .ok project' →
        (∀ field, HeardAlike w w' (project.getD []) (project'.getD []) given given' field) →
        resolve w' given' directory' = resolve w given directory := by
  have settles := resolve_eq_settle loaded noBytes
  refine ⟨winning w (project.getD []) given, ?wins, ?succeeds, ?gives, ?refuses, ?heard⟩
  case wins =>
    intro field v
    constructor
    · exact Wins.eq_winning
    · rintro rfl
      exact wins_winning w (project.getD []) given field
  case succeeds =>
    rw [settles]
    constructor
    · rintro ⟨s, settled⟩
      exact (settle_eq_ok.mp settled).1
    · intro all
      refine ⟨fun field => textOf (winning w (project.getD []) given field), ?_⟩
      exact settle_eq_ok.mpr ⟨all, fun field => (all field).valueOf_textOf⟩
  case gives =>
    intro s resolved
    rw [settles] at resolved
    exact (settle_eq_ok.mp resolved).2
  case refuses =>
    intro refused
    rw [settles, settle_of_not refused]
  case heard =>
    intro w' given' directory' project' loaded' alike
    have clear : ∀ (field : Setting) bs, given'.get? field.name ≠ some (.bytes bs) := by
      intro field bs found
      exact noBytes field bs (((alike field).commandLine _ (by simp)).mpr found)
    have same : winning w (project.getD []) given = winning w' (project'.getD []) given' := by
      funext field
      exact ((wins_winning w (project.getD []) given field).of_heardAlike (alike field)).eq_winning
    rw [settles, resolve_eq_settle loaded' clear, same]

/-- A desk with a project file that is not right about the plugin and the service. -/
private def desk : World where
  files := ⟨.directory [("shapecli.json", .file (Text.encode
    "\x7b\"model\":\"m\",\"service\":5,\"plugin\":null,\"color\":1\x7d"))], []⟩
  environment := [("SHAPECLI_SERVICE", "s"), ("SHAPECLI_MODEL", "")]
  input := ""
  fetch address := .failure address
  platform := "Linux"
  time := "0"

private def deskProject : Entries := [
  (.str "model", .str "m"), (.str "service", .int 5), (.str "plugin", .null),
  (.str "color", .int 1)]

private def isDeskProject : Outcome (Option Entries) → Bool
  | .ok (some [(.str "model", .str "m"), (.str "service", .int 5), (.str "plugin", .null),
      (.str "color", .int 1)]) => true
  | _ => false

private theorem desk_loaded : loadProject desk.files (.ofText ".") = .ok (some deskProject) := by
  have told : isDeskProject (loadProject desk.files (.ofText ".")) = true := by decide +kernel
  unfold isDeskProject at told
  split at told
  · assumption
  · cases told

/-- The command line is right about the plugin and the environment about the service, and then the
project file is heard about the model only; without the command line the plugin is refused. -/
theorem resolve_winning_desk :
    loadProject desk.files (.ofText ".") = .ok (some deskProject) ∧
    (∃ s, resolve desk [(.str "plugin", .str "p")] (.ofText ".") = .ok s ∧
      s .plugin = some "p" ∧ s .service = some "s" ∧ s .model = some "m" ∧ s .client = none) ∧
    resolve desk [] (.ofText ".") = .error (.config (.invalidSettings ["plugin"])) := by
  have noBytes : ∀ (field : Setting) bs,
      Entries.get? [(.str "plugin", .str "p")] field.name ≠ some (.bytes bs) := by
    intro field bs
    cases field <;> simp [Entries.get?, Setting.name]
  have noneGiven : ∀ (field : Setting) bs, Entries.get? [] field.name ≠ some (.bytes bs) := by
    intro field bs found
    cases found
  obtain ⟨win, wins, succeeds, gives, -⟩ := resolve_winning desk_loaded noBytes
  have same : ∀ field, win field
      = winning desk deskProject [(.str "plugin", .str "p")] field :=
    fun field => ((wins field _).mp (wins_winning _ _ _ field)).symm
  obtain ⟨s, resolved⟩ := succeeds.mpr (by
    intro field
    rw [same]
    cases field <;> decide)
  have text : ∀ field, s field = textOf (win field) := by
    intro field
    rw [← gives s resolved field, textOf_valueOf]
  obtain ⟨bare, wins', -, -, refuses, -⟩ := resolve_winning desk_loaded noneGiven
  have same' : bare = winning desk deskProject [] :=
    funext fun field => ((wins' field _).mp (wins_winning _ _ _ field)).symm
  have named : (inadmissible bare).map Setting.name = ["plugin"] := by
    rw [same']
    decide
  have refused : ¬IsAdmissible .plugin (bare .plugin) := by
    rw [same']
    decide
  refine ⟨desk_loaded, ⟨s, resolved, ?_, ?_, ?_, ?_⟩, named ▸ refuses ⟨.plugin, refused⟩⟩ <;>
  · rw [text, same]
    decide

end Resolving

end ServiceCli.Settings
