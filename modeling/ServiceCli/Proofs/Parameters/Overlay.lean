import ServiceCli.Command.Flag
import ServiceCli.Parameters.Merge
import ServiceCli.Proofs.Data.Entries

set_option autoImplicit false
set_option relaxedAutoImplicit false

namespace ServiceCli.Parameters

open ServiceCli.Command ServiceCli.Data

section Flags

variable {file flags : Entries} {name : String} {v : Value}

/-- What one flag lays over a value, or over the lack of one. -/
def laidOver (v : Value) (below : Option Value) : Option Value :=
  if isGiven v then some (givenValue v) else below

theorem get?_overlay_same :
    (overlay file (.str name, v)).get? name = laidOver v (file.get? name) := by
  rw [overlay, laidOver]
  split
  · exact Entries.get?_put_same _
  · rfl

theorem get?_overlay_of_ne {other : String} (differ : other ≠ name) :
    (overlay file (.str name, v)).get? other = file.get? other := by
  rw [overlay]
  split
  · exact Entries.get?_put_of_ne differ _
  · rfl

def flagValues (flags : List Flag) (given : Flag → Value) : Entries :=
  flags.map fun f => (.str f.name, given f)

variable {given : Flag → Value}

theorem get?_merge_of_not_mem {flags : List Flag} (absent : name ∉ flags.map Flag.name) :
    (merge file (flagValues flags given)).get? name = file.get? name := by
  induction flags generalizing file with
  | nil => rfl
  | cons f flags ih =>
    rw [List.map_cons, List.mem_cons, not_or] at absent
    have later := @ih (overlay file (.str f.name, given f)) absent.2
    rw [get?_overlay_of_ne absent.1] at later
    exact later

theorem get?_merge_of_mem {flags : List Flag} (differ : (flags.map Flag.name).Nodup) {f : Flag}
    (member : f ∈ flags) :
    (merge file (flagValues flags given)).get? f.name = laidOver (given f) (file.get? f.name) := by
  induction flags generalizing file with
  | nil => exact absurd member (by simp)
  | cons g flags ih =>
    obtain ⟨fresh, others⟩ := List.nodup_cons.mp differ
    rcases List.mem_cons.mp member with rfl | member
    · have later := @get?_merge_of_not_mem (overlay file (.str f.name, given f)) f.name given flags
        fresh
      rw [get?_overlay_same] at later
      exact later
    · have other : f.name ≠ g.name := fun same => fresh (same ▸ List.mem_map_of_mem member)
      have later := @ih (overlay file (.str g.name, given g)) others member
      rw [get?_overlay_of_ne other] at later
      exact later

end Flags

section Layers

/-- What stands under a key once an option, or none, is laid over what stood there. -/
def layered : Option Value → Option Value → Option Value
  | some v, below => laidOver v below
  | none, below => below

theorem isGiven_iff (v : Value) :
    isGiven v = true ↔ v ≠ .null ∧ v ≠ .list [] ∧ v ≠ .tuple [] := by
  unfold isGiven
  split <;> simp_all

theorem laidOver_givenValue {v : Value} (given : isGiven v = true) (below : Option Value) :
    laidOver (givenValue v) below = some (givenValue v) := by
  have kept : givenValue (givenValue v) = givenValue v := by cases v <;> rfl
  have still : isGiven (givenValue v) = true := by
    cases v with
    | tuple items =>
      cases items with
      | nil => exact nomatch given
      | cons => rfl
    | _ => exact given
  rw [laidOver, if_pos still, kept]

theorem layered_layered (upper lower below : Option Value) :
    layered (layered upper lower) below = layered upper (layered lower below) := by
  cases upper with
  | none => rfl
  | some v =>
    by_cases given : isGiven v = true
    · have top : ∀ under, laidOver v under = some (givenValue v) := fun under => if_pos given
      simp only [layered, top, laidOver_givenValue given]
    · have through : ∀ under, laidOver v under = under := fun under => if_neg given
      simp only [layered, through]

variable {file first second options : Entries} {k : Key} {v : Value}

theorem held?_overlay (l : Key) : (overlay file (k, v)).held? l
    = if k.same l = true then laidOver v (file.held? l) else file.held? l := by
  rw [overlay, laidOver]
  by_cases given : isGiven v = true
  · rw [if_pos given, if_pos given, Entries.held?_put]
  · simp [given]

theorem keys_overlay : (overlay file (k, v)).map Prod.fst
    = if isGiven v && (file.held? k).isNone then file.map Prod.fst ++ [k]
      else file.map Prod.fst := by
  rw [overlay]
  by_cases given : isGiven v = true
  · simp only [given, if_true, Bool.true_and, Entries.keys_put]
  · simp [given]

/-- Under each key stands what the options lay over the parameters. -/
theorem held?_merge (once : options.IsDict) :
    (merge file options).held? k = layered (options.held? k) (file.held? k) := by
  induction options generalizing file with
  | nil => rfl
  | cons option options ih =>
    obtain ⟨l, v⟩ := option
    have later := @ih (overlay file (l, v)) (List.pairwise_cons.mp once).2
    change (merge (overlay file (l, v)) options).held? k = _
    rw [later, held?_overlay, Entries.held?]
    by_cases same : l.same k = true
    · rw [once.held?_rest same, if_pos same, if_pos same]
      rfl
    · rw [if_neg same, if_neg same]

/-- The keys of the options that are given under no key of the parameters, in their order. -/
def newKeys (file options : Entries) : List Key :=
  (options.filter fun option => isGiven option.2 && (file.held? option.1).isNone).map Prod.fst

theorem keys_merge (once : options.IsDict) :
    (merge file options).map Prod.fst = file.map Prod.fst ++ newKeys file options := by
  induction options generalizing file with
  | nil => exact (List.append_nil _).symm
  | cons option options ih =>
    obtain ⟨l, v⟩ := option
    obtain ⟨differ, others⟩ := List.pairwise_cons.mp once
    -- the other options have other keys, so the first one does not decide whether theirs are new
    have rest : newKeys (overlay file (l, v)) options = newKeys file options := by
      refine congrArg (List.map Prod.fst) (List.filter_congr fun other member => ?_)
      have apart := differ other.1 (List.mem_map_of_mem member)
      rw [held?_overlay, if_neg apart]
    have later := @ih (overlay file (l, v)) others
    change (merge (overlay file (l, v)) options).map Prod.fst = _
    rw [later, rest, keys_overlay]
    by_cases new : (isGiven v && (file.held? l).isNone) = true
    · simp [newKeys, new]
    · simp [newKeys, new]

theorem isDict_merge (once : file.IsDict) (options : Entries) : (merge file options).IsDict := by
  induction options generalizing file with
  | nil => exact once
  | cons option options ih =>
    apply ih
    rw [overlay]
    split
    · exact once.put _ _
    · exact once

theorem merge_of_notGiven (none : ∀ option ∈ options, isGiven option.2 = false) :
    merge file options = file := by
  induction options with
  | nil => rfl
  | cons option options ih =>
    have silent : overlay file option = file := by
      simp [overlay, none option List.mem_cons_self]
    rw [merge, List.foldl_cons, silent]
    exact ih fun other member => none other (List.mem_cons_of_mem _ member)

/-- Options are laid over parameters key by key. An option counts as given unless it is null or
empty; the arguments of a repeated one become a list. Two layers of options may be laid over each
other first, and options that are not given change nothing. -/
theorem merge_layers (once : first.IsDict) (also : second.IsDict) :
    (∀ v, isGiven v = true ↔ v ≠ .null ∧ v ≠ .list [] ∧ v ≠ .tuple []) ∧
    (∀ k v, first.held? k = some v → isGiven v = true →
      (merge file first).held? k = some (givenValue v)) ∧
    (∀ k, (∀ v, first.held? k = some v → isGiven v = false) →
      (merge file first).held? k = file.held? k) ∧
    ((merge file first).map Prod.fst = file.map Prod.fst ++ newKeys file first) ∧
    (file.IsDict → (merge file first).IsDict) ∧
    Entries.SameMapping (merge (merge file first) second) (merge file (merge first second)) ∧
    ((∀ option ∈ first, isGiven option.2 = false) → merge file first = file) := by
  refine ⟨isGiven_iff, ?given, ?notGiven, keys_merge once, fun dict => isDict_merge dict first,
    ?layers, merge_of_notGiven⟩
  case given =>
    intro k v found given
    rw [held?_merge once, found]
    exact if_pos given
  case notGiven =>
    intro k silent
    rw [held?_merge once]
    cases found : first.held? k with
    | none => rfl
    | some v => simp [layered, laidOver, silent v found]
  case layers =>
    intro k
    rw [held?_merge also, held?_merge once, held?_merge (isDict_merge once second),
      held?_merge also, layered_layered]

private def drawerFile : Entries := [(.str "size", .int 3), (.str "tags", .list [.str "old"])]

private def drawerOptions : Entries :=
  [(.str "color", .null), (.str "tags", .tuple [.str "new", .str "low"]), (.str "label", .str "A")]

private def drawerOverrides : Entries := [(.str "color", .str "red"), (.str "tags", .list [])]

/-- A repeated option becomes a list in the place of the old one, and a color that only the second
layer gives comes through the first. -/
theorem merge_layers_drawer :
    (merge drawerFile drawerOptions).held? (.str "tags") = some (.list [.str "new", .str "low"]) ∧
    (merge drawerFile drawerOptions).map Prod.fst = [.str "size", .str "tags", .str "label"] ∧
    Entries.SameMapping (merge (merge drawerFile drawerOptions) drawerOverrides)
      (merge drawerFile (merge drawerOptions drawerOverrides)) := by
  have once : drawerOptions.IsDict := by
    unfold Entries.IsDict
    decide
  have also : drawerOverrides.IsDict := by
    unfold Entries.IsDict
    decide
  have laws := @merge_layers drawerFile drawerOptions drawerOverrides once also
  obtain ⟨-, given, -, keys, -, layers, -⟩ := laws
  have tags : isGiven (.tuple [.str "new", .str "low"]) = true := rfl
  exact ⟨given (.str "tags") _ rfl tags, keys, layers⟩

end Layers

end ServiceCli.Parameters
