import ServiceCli.Parameters.Blob
import ServiceCli.Proofs.Data.JsonValue

set_option autoImplicit false
set_option relaxedAutoImplicit false

namespace ServiceCli.Parameters

open ServiceCli.Data

mutual
def streamsIn : Value → List Value
  | .stream path position closed => [.stream path position closed]
  | .list items => streamsAmong items
  | .map entries => streamsUnder entries
  | _ => []
def streamsAmong : List Value → List Value
  | [] => []
  | v :: rest => streamsIn v ++ streamsAmong rest
def streamsUnder : List (Key × Value) → List Value
  | [] => []
  | (_, v) :: rest => streamsIn v ++ streamsUnder rest
end

def IsOpen : Value → Prop
  | .stream _ _ closed => closed = false
  | _ => False

def IsClosed : Value → Prop
  | .stream _ _ closed => closed = true
  | _ => False

mutual
/-- A value with every stream in it open. -/
def reopen : Value → Value
  | .stream path position _ => .stream path position false
  | .list items => .list (reopenAll items)
  | .map entries => .map (reopenEntries entries)
  | v => v
def reopenAll : List Value → List Value
  | [] => []
  | v :: rest => reopen v :: reopenAll rest
def reopenEntries : List (Key × Value) → List (Key × Value)
  | [] => []
  | (k, v) :: rest => (k, reopen v) :: reopenEntries rest
end

mutual
theorem closeStreams_closeStreams : ∀ v : Value, closeStreams (closeStreams v) = closeStreams v
  | .stream _ _ _ => rfl
  | .list items => congrArg Value.list (closeAll_closeAll items)
  | .map entries => congrArg Value.map (closeEntries_closeEntries entries)
  | .atom _ | .tuple _ | .set _ | .record _ | .report _ | .account _ _ | .opaqueText _ _ => rfl
theorem closeAll_closeAll : ∀ items : List Value, closeAll (closeAll items) = closeAll items
  | [] => rfl
  | v :: rest => by rw [closeAll, closeAll, closeStreams_closeStreams v, closeAll_closeAll rest]
theorem closeEntries_closeEntries : ∀ entries : List (Key × Value),
    closeEntries (closeEntries entries) = closeEntries entries
  | [] => rfl
  | (_, v) :: rest => by
    rw [closeEntries, closeEntries, closeStreams_closeStreams v, closeEntries_closeEntries rest]
end

mutual
theorem streamsIn_closeStreams : ∀ v : Value,
    streamsIn (closeStreams v) = (streamsIn v).map closeStreams
  | .stream _ _ _ => rfl
  | .list items => streamsAmong_closeAll items
  | .map entries => streamsUnder_closeEntries entries
  | .atom _ | .tuple _ | .set _ | .record _ | .report _ | .account _ _ | .opaqueText _ _ => rfl
theorem streamsAmong_closeAll : ∀ items : List Value,
    streamsAmong (closeAll items) = (streamsAmong items).map closeStreams
  | [] => rfl
  | v :: rest => by
    rw [closeAll, streamsAmong, streamsAmong, List.map_append, streamsIn_closeStreams v,
      streamsAmong_closeAll rest]
theorem streamsUnder_closeEntries : ∀ entries : List (Key × Value),
    streamsUnder (closeEntries entries) = (streamsUnder entries).map closeStreams
  | [] => rfl
  | (_, v) :: rest => by
    rw [closeEntries, streamsUnder, streamsUnder, List.map_append, streamsIn_closeStreams v,
      streamsUnder_closeEntries rest]
end

mutual
theorem isClosed_closeStreams : ∀ v : Value, ∀ s ∈ streamsIn (closeStreams v), IsClosed s
  | .stream _ _ _ => List.forall_mem_singleton.mpr rfl
  | .list items => isClosed_closeAll items
  | .map entries => isClosed_closeEntries entries
  | .atom _ | .tuple _ | .set _ | .record _ | .report _ | .account _ _ | .opaqueText _ _ =>
    List.forall_mem_nil _
theorem isClosed_closeAll : ∀ items : List Value, ∀ s ∈ streamsAmong (closeAll items), IsClosed s
  | [] => List.forall_mem_nil _
  | v :: rest => List.forall_mem_append.mpr ⟨isClosed_closeStreams v, isClosed_closeAll rest⟩
theorem isClosed_closeEntries : ∀ entries : List (Key × Value),
    ∀ s ∈ streamsUnder (closeEntries entries), IsClosed s
  | [] => List.forall_mem_nil _
  | (_, v) :: rest =>
    List.forall_mem_append.mpr ⟨isClosed_closeStreams v, isClosed_closeEntries rest⟩
end

mutual
theorem reopen_closeStreams : ∀ v : Value, (∀ s ∈ streamsIn v, IsOpen s) →
    reopen (closeStreams v) = v
  | .stream path position closed, opens => by
    have still : closed = false := opens _ List.mem_cons_self
    rw [closeStreams, reopen, still]
  | .list items, opens => congrArg Value.list (reopenAll_closeAll items opens)
  | .map entries, opens => congrArg Value.map (reopenEntries_closeEntries entries opens)
  | .atom _, _ | .tuple _, _ | .set _, _ | .record _, _ | .report _, _ | .account _ _, _
  | .opaqueText _ _, _ => rfl
theorem reopenAll_closeAll : ∀ items : List Value, (∀ s ∈ streamsAmong items, IsOpen s) →
    reopenAll (closeAll items) = items
  | [], _ => rfl
  | v :: rest, opens => by
    have first : ∀ s ∈ streamsIn v, IsOpen s :=
      fun s member => opens s (List.mem_append_left _ member)
    have others : ∀ s ∈ streamsAmong rest, IsOpen s :=
      fun s member => opens s (List.mem_append_right _ member)
    rw [closeAll, reopenAll, reopen_closeStreams v first, reopenAll_closeAll rest others]
theorem reopenEntries_closeEntries : ∀ entries : List (Key × Value),
    (∀ s ∈ streamsUnder entries, IsOpen s) → reopenEntries (closeEntries entries) = entries
  | [], _ => rfl
  | (_, v) :: rest, opens => by
    have first : ∀ s ∈ streamsIn v, IsOpen s :=
      fun s member => opens s (List.mem_append_left _ member)
    have others : ∀ s ∈ streamsUnder rest, IsOpen s :=
      fun s member => opens s (List.mem_append_right _ member)
    rw [closeEntries, reopenEntries, reopen_closeStreams v first,
      reopenEntries_closeEntries rest others]
end

mutual
theorem streamsIn_of_isJson : ∀ v : Value, v.IsJson → streamsIn v = []
  | .atom _, _ => rfl
  | .list items, json => streamsAmong_of_isJson items json
  | .map entries, json => streamsUnder_of_isJson entries json.2
  | .tuple _, json => json.elim
  | .set _, json => json.elim
  | .stream _ _ _, json => json.elim
  | .record _, json => json.elim
  | .report _, json => json.elim
  | .account _ _, json => json.elim
  | .opaqueText _ _, json => json.elim
theorem streamsAmong_of_isJson : ∀ items : List Value, ItemsJson items → streamsAmong items = []
  | [], _ => rfl
  | v :: rest, ⟨first, others⟩ => by
    rw [streamsAmong, streamsIn_of_isJson v first, streamsAmong_of_isJson rest others]
    rfl
theorem streamsUnder_of_isJson : ∀ entries : List (Key × Value), EntriesJson entries →
    streamsUnder entries = []
  | [], _ => rfl
  | (_, v) :: rest, ⟨_, first, others⟩ => by
    rw [streamsUnder, streamsIn_of_isJson v first, streamsUnder_of_isJson rest others]
    rfl
end

theorem streamsUnder_append (first rest : Entries) :
    streamsUnder (first ++ rest) = streamsUnder first ++ streamsUnder rest := by
  induction first with
  | nil => rfl
  | cons entry first ih =>
    obtain ⟨k, v⟩ := entry
    rw [List.cons_append, streamsUnder, streamsUnder, ih, List.append_assoc]

end ServiceCli.Parameters
