import ServiceCli.Json.Printer
import ServiceCli.Json.Reader
import ServiceCli.Proofs.Data.Entries
import ServiceCli.Proofs.Outcome

set_option autoImplicit false
set_option relaxedAutoImplicit false

namespace ServiceCli.Data

open ServiceCli.Json

def Scalar.isJson : Scalar → Bool
  | .bytes _ => false
  | .moment _ => false
  | _ => true

mutual
/-- A value that JSON knows: its mappings have texts for keys, each once. -/
def Value.IsJson : Value → Prop
  | .atom a => a.isJson = true
  | .list items => ItemsJson items
  | .map entries => (entries.map Prod.fst).Nodup ∧ EntriesJson entries
  | _ => False
def ItemsJson : List Value → Prop
  | [] => True
  | v :: rest => v.IsJson ∧ ItemsJson rest
/-- Every entry has a text for its key and a value that JSON knows. -/
def EntriesJson : List (Key × Value) → Prop
  | [] => True
  | (k, v) :: rest => (∃ name, k = .str name) ∧ v.IsJson ∧ EntriesJson rest
end

theorem EntriesJson.of_mem {entries : Entries} (json : EntriesJson entries) {entry : Key × Value}
    (member : entry ∈ entries) : (∃ name, entry.1 = .str name) ∧ entry.2.IsJson := by
  induction entries with
  | nil => exact absurd member (by simp)
  | cons first entries ih =>
    obtain ⟨k, v⟩ := first
    obtain ⟨key, value, rest⟩ := json
    rcases List.mem_cons.mp member with rfl | member
    · exact ⟨key, value⟩
    · exact ih rest member

mutual
theorem printValue_isSome : ∀ (v : Value) (depth : Nat), v.IsJson →
    ∃ text, printValue compact depth v = some text
  | .atom a, _, json => by
    cases a <;> simp_all [Value.IsJson, Scalar.isJson, printValue, printScalar]
  | .list items, depth, json => by
    obtain ⟨texts, printed⟩ := printItems_isSome items (depth + 1) json
    exact ⟨_, by rw [printValue, printed]; rfl⟩
  | .map entries, depth, json => by
    obtain ⟨texts, printed⟩ := printMembers_isSome entries (depth + 1) json.2
    exact ⟨_, by rw [printValue, printed]; rfl⟩
  | .tuple _, _, json => json.elim
  | .set _, _, json => json.elim
  | .stream _ _ _, _, json => json.elim
  | .record _, _, json => json.elim
  | .report _, _, json => json.elim
  | .account _ _, _, json => json.elim
  | .opaqueText _ _, _, json => json.elim
theorem printItems_isSome : ∀ (items : List Value) (depth : Nat), ItemsJson items →
    ∃ texts, printItems compact depth items = some texts
  | [], _, _ => ⟨[], rfl⟩
  | v :: rest, depth, ⟨first, others⟩ => by
    obtain ⟨text, printed⟩ := printValue_isSome v depth first
    obtain ⟨texts, following⟩ := printItems_isSome rest depth others
    exact ⟨text :: texts, by rw [printItems, printed, following]; rfl⟩
theorem printMembers_isSome : ∀ (entries : List (Key × Value)) (depth : Nat), EntriesJson entries →
    ∃ texts, printMembers compact depth entries = some texts
  | [], _, _ => ⟨[], rfl⟩
  | (k, v) :: rest, depth, ⟨⟨name, key⟩, first, others⟩ => by
    obtain ⟨text, printed⟩ := printValue_isSome v depth first
    obtain ⟨texts, following⟩ := printMembers_isSome rest depth others
    subst key
    exact ⟨_, by rw [printMembers, printed, following]; rfl⟩
end

theorem Value.IsJson.print {v : Value} (json : v.IsJson) :
    ∃ text, Json.print? Json.compact v = some text := by
  obtain ⟨text, printed⟩ := printValue_isSome v 0 json
  exact ⟨String.ofList text, by rw [Json.print?, printed]; rfl⟩

theorem ItemsJson.of_forall {items : List Value} (json : ∀ v ∈ items, v.IsJson) :
    ItemsJson items := by
  induction items with
  | nil => trivial
  | cons v items ih =>
    exact ⟨json v List.mem_cons_self, ih fun w member => json w (List.mem_cons_of_mem v member)⟩

theorem EntriesJson.of_forall {entries : Entries}
    (json : ∀ entry ∈ entries, (∃ name, entry.1 = .str name) ∧ entry.2.IsJson) :
    EntriesJson entries := by
  induction entries with
  | nil => trivial
  | cons entry entries ih =>
    obtain ⟨named, own⟩ := json entry List.mem_cons_self
    exact ⟨named, own, ih fun other member => json other (List.mem_cons_of_mem entry member)⟩

variable {entries : Entries} {name : String} {v : Value}

theorem mem_put {entry : Key × Value} (member : entry ∈ entries.put (.str name) v) :
    entry = (.str name, v) ∨ entry ∈ entries := by
  induction entries with
  | nil => exact .inl (List.mem_singleton.mp member)
  | cons first entries ih =>
    obtain ⟨k, w⟩ := first
    rw [Entries.put] at member
    split at member
    · rename_i same
      rw [(Entries.same_str k name).mp same] at member
      exact (List.mem_cons.mp member).imp_right (List.mem_cons_of_mem _)
    · rcases List.mem_cons.mp member with rfl | later
      · exact .inr List.mem_cons_self
      · exact (ih later).imp_right (List.mem_cons_of_mem _)

theorem nodup_put (differ : (entries.map Prod.fst).Nodup) :
    ((entries.put (.str name) v).map Prod.fst).Nodup := by
  induction entries with
  | nil => simp [Entries.put]
  | cons entry entries ih =>
    obtain ⟨k, w⟩ := entry
    obtain ⟨fresh, others⟩ := List.nodup_cons.mp differ
    rw [Entries.put]
    split
    · exact differ
    · rename_i other
      refine List.nodup_cons.mpr ⟨fun again => ?_, ih others⟩
      obtain ⟨entry, member, same⟩ := List.mem_map.mp again
      rcases mem_put member with rfl | earlier
      · exact other ((Entries.same_str k name).mpr same.symm)
      · exact fresh (List.mem_map.mpr ⟨entry, earlier, same⟩)

end ServiceCli.Data

namespace ServiceCli.Json

open ServiceCli.Data
open Outcome (bind_eq_ok pure_eq_ok)

variable {v : Value} {cs rest : List Char}

theorem readNumber_atom (told : readNumber cs = .ok (v, rest)) :
    ∃ a : Scalar, v = .atom a ∧ a.isJson = true := by
  rw [readNumber.eq_def] at told
  split at told
  repeat' split at told
  all_goals cases told <;> exact ⟨_, rfl, rfl⟩

theorem readPlain_atom (told : readPlain cs = .ok (v, rest)) :
    ∃ a : Scalar, v = .atom a ∧ a.isJson = true := by
  revert told
  fun_cases readPlain cs with
  | case7 => exact readNumber_atom
  | _ =>
    intro told
    cases told
    exact ⟨_, rfl, rfl⟩

/-- Entries have a text for each key, no two the same, and values with a property. -/
def MembersHave (P : Value → Prop) (entries : Entries) : Prop :=
  (entries.map Prod.fst).Nodup ∧ ∀ entry ∈ entries, (∃ name, entry.1 = .str name) ∧ P entry.2

theorem MembersHave.put {P : Value → Prop} {entries : Entries} (held : MembersHave P entries)
    (name : String) (own : P v) : MembersHave P (entries.put (.str name) v) := by
  refine ⟨nodup_put held.1, fun entry member => ?_⟩
  rcases mem_put member with rfl | earlier
  · exact ⟨⟨name, rfl⟩, own⟩
  · exact held.2 entry earlier

/-- A property of values that containers have when what is inside them has it. -/
structure Composes (P : Value → Prop) : Prop where
  atom {a : Scalar} : a.isJson = true → P (.atom a)
  list {items : List Value} : (∀ v ∈ items, P v) → P (.list items)
  map {entries : Entries} : MembersHave P entries → P (.map entries)

/-- With any fuel, what is read has such a property: a value of any kind, the items of an array, and
the members of an object behind those before. -/
private theorem Composes.readWithin {P : Value → Prop} (composes : Composes P) (fuel : Nat) :
    (∀ {cs : List Char} {v : Value} {rest : List Char},
      readValue fuel cs = .ok (v, rest) → P v) ∧
    (∀ {cs : List Char} {v : Value} {rest : List Char},
      readItems fuel cs = .ok (v, rest) → ∃ items, v = .list items ∧ ∀ w ∈ items, P w) ∧
    (∀ {done : Entries} {cs : List Char} {v : Value} {rest : List Char},
      MembersHave P done → readMembers fuel done cs = .ok (v, rest) →
        ∃ entries, v = .map entries ∧ MembersHave P entries) := by
  induction fuel with
  | zero => exact ⟨nofun, nofun, fun _ => nofun⟩
  | succ fuel ih =>
    obtain ⟨valueHas, itemsHave, membersHave⟩ := ih
    have empty : MembersHave P [] :=
      ⟨List.nodup_nil, fun _ member => absurd member List.not_mem_nil⟩
    refine ⟨?value, ?items, ?members⟩
    case value =>
      intro cs v rest told
      rw [readValue.eq_def] at told
      dsimp only at told
      split at told
      · obtain ⟨_, _, told⟩ := bind_eq_ok.mp told
        cases pure_eq_ok.mp told
        exact composes.atom rfl
      · split at told
        · cases Except.ok.inj told
          exact composes.map empty
        · obtain ⟨entries, rfl, members⟩ := membersHave empty told
          exact composes.map members
      · split at told
        · cases Except.ok.inj told
          exact composes.list fun _ member => absurd member List.not_mem_nil
        · obtain ⟨items, rfl, each⟩ := itemsHave told
          exact composes.list each
      · obtain ⟨a, rfl, json⟩ := readPlain_atom told
        exact composes.atom json
    case items =>
      intro cs v rest told
      rw [readItems.eq_def] at told
      obtain ⟨⟨first, behind⟩, firstTold, told⟩ := bind_eq_ok.mp told
      have own : P first := valueHas firstTold
      dsimp only at told
      split at told
      · cases pure_eq_ok.mp told
        exact ⟨[first], rfl, List.forall_mem_singleton.mpr own⟩
      · obtain ⟨⟨more, _⟩, moreTold, told⟩ := bind_eq_ok.mp told
        obtain ⟨items, rfl, each⟩ := itemsHave moreTold
        cases pure_eq_ok.mp told
        exact ⟨first :: items, rfl, List.forall_mem_cons.mpr ⟨own, each⟩⟩
      · exact nomatch told
    case members =>
      intro done cs v rest before told
      rw [readMembers.eq_def] at told
      dsimp only at told
      split at told
      · obtain ⟨⟨name, _⟩, _, told⟩ := bind_eq_ok.mp told
        dsimp only at told
        split at told
        · obtain ⟨⟨value, _⟩, valueTold, told⟩ := bind_eq_ok.mp told
          have grown : MembersHave P (done.put (.str (String.ofList name)) value) :=
            before.put _ (valueHas valueTold)
          dsimp only at told
          split at told
          · cases pure_eq_ok.mp told
            exact ⟨_, rfl, grown⟩
          · exact membersHave grown told
          · exact nomatch told
        · exact nomatch told
      · exact nomatch told

private theorem readList_eq_ok (told : readList cs = .ok v) :
    ∃ behind, readValue (fuelFor cs) (skipSpace cs) = .ok (v, behind) := by
  rw [readList.eq_def] at told
  dsimp only at told
  split at told
  · rename_i w located
    cases Except.ok.inj told
    split at located
    · exact nomatch located
    · obtain ⟨⟨w, behind⟩, whole, located⟩ := bind_eq_ok.mp located
      dsimp only at located
      split at located
      · cases pure_eq_ok.mp located
        exact ⟨behind, whole⟩
      · exact nomatch located
  · exact nomatch told

theorem Composes.read {P : Value → Prop} (composes : Composes P) {text : String}
    (told : Json.read text = .ok v) : P v := by
  obtain ⟨_, whole⟩ := readList_eq_ok told
  exact (composes.readWithin _).1 whole

theorem read_isJson {text : String} (told : read text = .ok v) : v.IsJson := by
  have composes : Composes Value.IsJson :=
    ⟨fun json => json, .of_forall, fun members => ⟨members.1, .of_forall members.2⟩⟩
  exact composes.read told

theorem read_marked {text : String} {name : List Char} (marked : text.toList = '@' :: name) :
    read text ≠ .ok v := by
  intro told
  obtain ⟨_, whole⟩ := readList_eq_ok told
  rw [marked] at whole
  exact nomatch whole

end ServiceCli.Json
