import ServiceCli.Literal.Value
import ServiceCli.Proofs.Outcome
import ServiceCli.Text.Utf8

/-!
Plain values: what a client returns, brought into lists, mappings with text keys and indivisible
values. Reports become what they report, and bytes the text that they encode. A record is first told
by its fields, for which all that it holds is copied; the mapping of its fields is then brought into
plain form.
-/

set_option autoImplicit false
set_option relaxedAutoImplicit false

namespace ServiceCli.Report

open ServiceCli.Data ServiceCli.Number
open Outcome (bind_eq_ok)

/-! ### Records told by their fields -/

mutual
def isCopyableKey : Key → Bool
  | .atom _ => true
  | .tuple items => areCopyableKeys items
  | .opaqueText _ copyable => copyable
def areCopyableKeys : List Key → Bool
  | [] => true
  | k :: rest => isCopyableKey k && areCopyableKeys rest
end

mutual
/-- Whether a value can be copied with all that it holds. Streams cannot. -/
def isCopyable : Value → Bool
  | .atom _ => true
  | .list items => areCopyable items
  | .tuple items => areCopyable items
  | .set items => areCopyableKeys items
  | .map entries => areCopyableEntries entries
  | .stream _ _ _ => false
  | .record fields => areCopyableFields fields
  | .report content => isCopyable content
  | .account fields _ => areCopyableFields fields
  | .opaqueText _ copyable => copyable
def areCopyable : List Value → Bool
  | [] => true
  | v :: rest => isCopyable v && areCopyable rest
def areCopyableEntries : List (Key × Value) → Bool
  | [] => true
  | (k, v) :: rest => isCopyableKey k && isCopyable v && areCopyableEntries rest
def areCopyableFields : List (String × Value) → Bool
  | [] => true
  | (_, v) :: rest => isCopyable v && areCopyableFields rest
end

theorem areCopyable_iff {items : List Value} :
    areCopyable items = true ↔ ∀ v ∈ items, isCopyable v = true := by
  induction items with
  | nil => simp [areCopyable]
  | cons v items ih => simp [areCopyable, ih]

theorem areCopyableEntries_iff {entries : Entries} : areCopyableEntries entries = true ↔
    ∀ entry ∈ entries, isCopyableKey entry.1 = true ∧ isCopyable entry.2 = true := by
  induction entries with
  | nil => simp [areCopyableEntries]
  | cons entry entries ih => simp [areCopyableEntries, ih, and_assoc]

theorem areCopyableFields_iff {fields : List (String × Value)} :
    areCopyableFields fields = true ↔ ∀ field ∈ fields, isCopyable field.2 = true := by
  induction fields with
  | nil => simp [areCopyableFields]
  | cons field fields ih => simp [areCopyableFields, ih]

def copyKey (k : Key) : Outcome Key := if isCopyableKey k then .ok k else faulty .wrongKind

def copy (v : Value) : Outcome Value := if isCopyable v then .ok v else faulty .wrongKind

theorem eq_of_copy {v u : Value} (copied : copy v = .ok u) : isCopyable v = true ∧ u = v := by
  rw [copy] at copied
  split at copied
  · rename_i copyable
    exact ⟨copyable, (Except.ok.inj copied).symm⟩
  · cases copied

theorem copy_eq_error {v : Value} {e : Failure} (failed : copy v = .error e) :
    e = .fault .wrongKind ∧ isCopyable v = false := by
  rw [copy] at failed
  split at failed
  · cases failed
  · rename_i uncopyable
    cases failed
    exact ⟨rfl, Bool.eq_false_iff.mpr uncopyable⟩

theorem eq_of_copyKey {k l : Key} (copied : copyKey k = .ok l) :
    isCopyableKey k = true ∧ l = k := by
  rw [copyKey] at copied
  split at copied
  · rename_i copyable
    exact ⟨copyable, (Except.ok.inj copied).symm⟩
  · cases copied

theorem copyKey_eq_error {k : Key} {e : Failure} (failed : copyKey k = .error e) :
    e = .fault .wrongKind ∧ isCopyableKey k = false := by
  rw [copyKey] at failed
  split at failed
  · cases failed
  · rename_i uncopyable
    cases failed
    exact ⟨rfl, Bool.eq_false_iff.mpr uncopyable⟩

mutual
/-- What stands in a record, when the record is told by its fields. Records in it are told by their
fields too, accounts among them, wherever they stand in lists, tuples and mappings; everything else
is copied. -/
def expand : Value → Outcome Value
  | .record fields => do return .map (← expandFields fields)
  | .account fields _ => do return .map (← expandFields fields)
  | .list items => do return .list (← expandItems items)
  | .tuple items => do return .tuple (← expandItems items)
  | .map entries => do return .map (← expandEntries entries)
  | v => copy v
def expandItems : List Value → Outcome (List Value)
  | [] => return []
  | v :: rest => do
    let first ← expand v
    return first :: (← expandItems rest)
def expandEntries : List (Key × Value) → Outcome Entries
  | [] => return []
  | (k, v) :: rest => do
    let key ← copyKey k
    let own ← expand v
    return (key, own) :: (← expandEntries rest)
/-- The fields of a record as the entries of a mapping. -/
def expandFields : List (String × Value) → Outcome Entries
  | [] => return []
  | (name, v) :: rest => do
    let own ← expand v
    return (.str name, own) :: (← expandFields rest)
end

theorem expandItems_eq (items : List Value) : expandItems items = items.mapM expand := by
  induction items with
  | nil => rfl
  | cons v items ih => rw [expandItems, ih, List.mapM_cons]

theorem expandEntries_eq (entries : Entries) : expandEntries entries
    = entries.mapM fun entry => do return (← copyKey entry.1, ← expand entry.2) := by
  induction entries with
  | nil => rfl
  | cons entry entries ih =>
    rw [expandEntries, ih, List.mapM_cons]
    simp only [bind_assoc, pure_bind]

theorem expandFields_eq (fields : List (String × Value)) : expandFields fields
    = fields.mapM fun field => do return (.str field.1, ← expand field.2) := by
  induction fields with
  | nil => rfl
  | cons field fields ih =>
    rw [expandFields, ih, List.mapM_cons]
    simp only [bind_assoc, pure_bind]

theorem expand_list (items : List Value) :
    expand (.list items) = do return .list (← items.mapM expand) := by
  rw [expand, expandItems_eq]

theorem expand_map (entries : Entries) : expand (.map entries)
    = do return .map (← entries.mapM fun entry => do
        return (← copyKey entry.1, ← expand entry.2)) := by
  rw [expand, expandEntries_eq]

theorem expand_record (fields : List (String × Value)) : expand (.record fields)
    = do return .map (← fields.mapM fun field => do
        return (.str field.1, ← expand field.2)) := by
  rw [expand, expandFields_eq]

/-! ### Plain form -/

mutual
/-- How much of a value there is to bring into plain form. A record counts for more than the mapping
of its fields. -/
def weight : Value → Nat
  | .list items => weightOfItems items + 1
  | .tuple items => weightOfItems items + 1
  | .map entries => weightOfEntries entries + 1
  | .record fields => weightOfFields fields + 2
  | .report content => weight content + 1
  | .account fields content => weightOfFields fields + weight content + 2
  | _ => 0
def weightOfItems : List Value → Nat
  | [] => 0
  | v :: rest => weight v + weightOfItems rest + 1
def weightOfEntries : List (Key × Value) → Nat
  | [] => 0
  | (_, v) :: rest => weight v + weightOfEntries rest + 1
def weightOfFields : List (String × Value) → Nat
  | [] => 0
  | (_, v) :: rest => weight v + weightOfFields rest + 1
end

mutual
theorem weight_expand : ∀ (v : Value) {u : Value}, expand v = .ok u → weight u ≤ weight v
  | .record fields, _, told => by
    obtain ⟨entries, within, ⟨⟩⟩ := bind_eq_ok.mp told
    exact Nat.le_succ_of_le (Nat.succ_le_succ (weight_expandFields fields within))
  | .account fields content, _, told => by
    obtain ⟨entries, within, ⟨⟩⟩ := bind_eq_ok.mp told
    have fewer := weight_expandFields fields within
    simp only [weight]
    omega
  | .list items, _, told => by
    obtain ⟨out, within, ⟨⟩⟩ := bind_eq_ok.mp told
    exact Nat.succ_le_succ (weight_expandItems items within)
  | .tuple items, _, told => by
    obtain ⟨out, within, ⟨⟩⟩ := bind_eq_ok.mp told
    exact Nat.succ_le_succ (weight_expandItems items within)
  | .map entries, _, told => by
    obtain ⟨out, within, ⟨⟩⟩ := bind_eq_ok.mp told
    exact Nat.succ_le_succ (weight_expandEntries entries within)
  | .atom _, _, told | .set _, _, told | .stream _ _ _, _, told | .report _, _, told
  | .opaqueText _ _, _, told => by
    exact Nat.le_of_eq (congrArg weight (eq_of_copy told).2)
theorem weight_expandItems : ∀ (items : List Value) {out : List Value},
    expandItems items = .ok out → weightOfItems out ≤ weightOfItems items
  | [], _, told => by cases told; exact Nat.le_refl _
  | v :: rest, _, told => by
    obtain ⟨first, own, told⟩ := bind_eq_ok.mp told
    obtain ⟨others, within, ⟨⟩⟩ := bind_eq_ok.mp told
    have lighter := weight_expand v own
    have fewer := weight_expandItems rest within
    simp only [weightOfItems]
    omega
theorem weight_expandEntries : ∀ (entries : Entries) {out : Entries},
    expandEntries entries = .ok out → weightOfEntries out ≤ weightOfEntries entries
  | [], _, told => by cases told; exact Nat.le_refl _
  | (k, v) :: rest, _, told => by
    obtain ⟨_, -, told⟩ := bind_eq_ok.mp told
    obtain ⟨first, own, told⟩ := bind_eq_ok.mp told
    obtain ⟨others, within, ⟨⟩⟩ := bind_eq_ok.mp told
    have lighter := weight_expand v own
    have fewer := weight_expandEntries rest within
    simp only [weightOfEntries]
    omega
theorem weight_expandFields : ∀ (fields : List (String × Value)) {out : Entries},
    expandFields fields = .ok out → weightOfEntries out ≤ weightOfFields fields
  | [], _, told => by cases told; exact Nat.le_refl _
  | (name, v) :: rest, _, told => by
    obtain ⟨first, own, told⟩ := bind_eq_ok.mp told
    obtain ⟨others, within, ⟨⟩⟩ := bind_eq_ok.mp told
    have lighter := weight_expand v own
    have fewer := weight_expandFields rest within
    simp only [weightOfFields, weightOfEntries]
    omega
end

mutual
/-- Whether the text of a key would hold a whole number of too many digits. -/
def holdsLongNumber : Key → Bool
  | .atom (.int i) => digitLimit < (Nat.toDigits 10 i.natAbs).length
  | .tuple items => holdLongNumber items
  | _ => false
def holdLongNumber : List Key → Bool
  | [] => false
  | k :: rest => holdsLongNumber k || holdLongNumber rest
end

def keyName (k : Key) : Outcome Key :=
  if holdsLongNumber k then faulty .malformedValue else .ok (.str (Literal.keyText k))

mutual
/-- A value brought into plain form. What has no plain form stays as it is. -/
def plain : Value → Outcome Value
  | .report content => plain content
  | .account _ content => plain content
  | .record fields =>
    match _told : expandFields fields with
    | .ok entries => plain (.map entries)
    | .error e => .error e
  | .map entries => do return .map (Entries.ofList (← plainEntries entries))
  | .list items => do return .list (← plainItems items)
  | .tuple items => do return .list (← plainItems items)
  | .atom (.bytes bytes) => .ok (.str (Text.decodeLenient bytes))
  | v => .ok v
termination_by v => weight v
decreasing_by
  all_goals simp only [weight]
  · omega
  · omega
  · have lighter := weight_expandFields fields _told
    omega
  all_goals omega
def plainItems : List Value → Outcome (List Value)
  | [] => return []
  | v :: rest => do
    let first ← plain v
    return first :: (← plainItems rest)
termination_by items => weightOfItems items
decreasing_by all_goals simp only [weightOfItems]; omega
/-- Entries brought into plain form; each key is replaced by its text. -/
def plainEntries : List (Key × Value) → Outcome (List (Key × Value))
  | [] => return []
  | (k, v) :: rest => do
    let key ← keyName k
    let own ← plain v
    return (key, own) :: (← plainEntries rest)
termination_by entries => weightOfEntries entries
decreasing_by all_goals simp only [weightOfEntries]; omega
end

theorem plain_tuple (items : List Value) : plain (.tuple items) = plain (.list items) := by
  rw [plain, plain]

theorem plainItems_eq (items : List Value) : plainItems items = items.mapM plain := by
  induction items with
  | nil => rw [plainItems, List.mapM_nil]
  | cons v items ih => rw [plainItems, ih, List.mapM_cons]

theorem plainEntries_eq (entries : Entries) : plainEntries entries
    = entries.mapM fun entry => do return (← keyName entry.1, ← plain entry.2) := by
  induction entries with
  | nil => rw [plainEntries, List.mapM_nil]
  | cons entry entries ih =>
    rw [plainEntries, ih, List.mapM_cons]
    simp only [bind_assoc, pure_bind]

end ServiceCli.Report
