import Mathlib.Data.List.Chain
import Mathlib.Data.List.Nodup
import Mathlib.Data.List.Perm.Subperm
import ServiceCli.Proofs.Shape.Unfolding

/-!
Chains of ancestors and cycles. Unfolding a reference visits others below growing chains, on which
no reference occurs twice. Main statements: unfolding ends; the cycle that it tells of is one of the
graph, reachable and without shortcut; in a graph whose reachable shapes are well-formed it tells of
a cycle exactly when there is one; and with ids on its chain in place of references it would answer
the same, since an id and the reference that it denotes stand for each other.
-/

set_option autoImplicit false
set_option relaxedAutoImplicit false

namespace ServiceCli.Shape

open ServiceCli.Data Relation

/-- The references that are visited on unfolding one, each with the chain of its ancestors. -/
inductive Visits (graph : Graph) (start : Ref) : List Ref → Ref → Prop
  | start : Visits graph start [] start
  | next {chain : List Ref} {r t : Ref} : Visits graph start chain r → r ∉ chain →
      Refers graph r t → Visits graph start (chain ++ [r]) t

/-- The ids of a cycle that can be reached: they begin and end with the same one, the others differ
from it and from each other, and each shape refers to the next. -/
def IsCycleFrom (graph : Graph) (start : Ref) (ids : List String) : Prop :=
  ∃ r loop, ids = ((r :: loop) ++ [r]).map Ref.id ∧ ((r :: loop).map Ref.id).Nodup ∧
    List.IsChain (Refers graph) ((r :: loop) ++ [r]) ∧ ReflTransGen (Refers graph) start r

/-- Every reachable reference outside the prelude denotes a shape that describes a layer: its kind
is a known one, and its members, targets and traits are well-formed. -/
def WellFormedFrom (graph : Graph) (start : Ref) : Prop :=
  ∀ r, ReflTransGen (Refers graph) start r → r.scope ≠ preludeScope →
    ∃ shape parts d, Denotes graph r shape ∧ Layer shape parts d

section Chains

variable {graph : Graph} {start : Ref} {chain : List Ref} {r : Ref}

theorem Visits.isChain (visits : Visits graph start chain r) :
    List.IsChain (Refers graph) (chain ++ [r]) := by
  induction visits with
  | start => simp
  | next _ _ refers ih =>
    rw [List.append_assoc, List.singleton_append, List.isChain_split]
    exact ⟨ih, by simpa using refers⟩

theorem Visits.nodup (visits : Visits graph start chain r) : chain.Nodup := by
  induction visits with
  | start => simp
  | next _ fresh _ ih =>
    rw [List.nodup_append]
    refine ⟨ih, by simp, ?_⟩
    rintro s onChain u own rfl
    exact fresh (List.mem_singleton.mp own ▸ onChain)

theorem Visits.denotes (visits : Visits graph start chain r) :
    ∀ s ∈ chain, ∃ shape, Denotes graph s shape := by
  induction visits with
  | start => simp
  | next _ _ refers ih =>
    intro s onChain
    rcases List.mem_append.mp onChain with onChain | own
    · exact ih s onChain
    · obtain ⟨shape, denotes, _⟩ := refers
      exact ⟨shape, List.mem_singleton.mp own ▸ denotes⟩

theorem Visits.reaches (visits : Visits graph start chain r) :
    ReflTransGen (Refers graph) start r := by
  induction visits with
  | start => exact .refl
  | next _ _ refers ih => exact ih.tail refers

theorem Visits.isCanonical (visits : Visits graph start chain r) :
    ∀ s ∈ chain ++ [r], s = start ∨ s.IsCanonical := by
  induction visits with
  | start => simp
  | next _ _ refers ih =>
    intro s visited
    rcases List.mem_append.mp visited with visited | own
    · exact ih s visited
    · exact Or.inr (List.mem_singleton.mp own ▸ refers.isCanonical)

private theorem nodup_ids {refs : List Ref} (nodup : refs.Nodup)
    (canonical : ∀ s ∈ refs, s.IsCanonical) : (refs.map Ref.id).Nodup :=
  nodup.map_on fun s member t other same =>
    (canonical s member).eq_of_id_eq (canonical t other) same

theorem Visits.nodup_ids (visits : Visits graph start chain r) (canonical : start.IsCanonical) :
    (chain.map Ref.id).Nodup := by
  apply ServiceCli.Shape.nodup_ids visits.nodup
  intro s onChain
  rcases visits.isCanonical s (List.mem_append_left _ onChain) with rfl | own
  · exact canonical
  · exact own

/-- A chain is no longer than the graph, the start perhaps excepted. -/
theorem Visits.length_le (visits : Visits graph start chain r) :
    chain.length ≤ graph.length + 1 := by
  have inGraph : chain.erase start ⊆ graphRefs graph := by
    intro s member
    obtain ⟨other, onChain⟩ := visits.nodup.mem_erase_iff.mp member
    obtain ⟨shape, denotes⟩ := visits.denotes s onChain
    rcases visits.isCanonical s (List.mem_append_left _ onChain) with same | canonical
    · exact absurd same other
    · exact mem_graphRefs canonical denotes
  have fewer := ((visits.nodup.erase start).subperm inGraph).length_le
  have bound : (graphRefs graph).length ≤ graph.length := List.length_filterMap_le _ _
  have erased : chain.length ≤ (chain.erase start).length + 1 := by
    rw [List.length_erase]
    split <;> omega
  omega

end Chains

section Cycles

variable {graph : Graph} {start : Ref} {chain : List Ref} {r : Ref} {fuel : Nat}

/-- A cycle that is told of was closed at a reference that was visited below itself. -/
private theorem cycle_closed {ids : List String} (visits : Visits graph start chain r)
    (failed : resolveWith graph fuel chain r = refuse (.cyclic ids)) :
    ∃ chain r, Visits graph start chain r ∧ r ∈ chain ∧
      ids = (loopFrom r chain).map Ref.id ++ [r.id] := by
  induction fuel generalizing chain r with
  | zero => simp [resolveWith, faulty, refuse] at failed
  | succ fuel ih =>
    rcases resolveWith_eq_error failed with ⟨_, _, met, cyclic⟩ |
      ⟨shape, t, denotes, fresh, refers, failed⟩ | own
    · exact ⟨chain, r, visits, met, by simpa using cyclic⟩
    · exact ih (visits.next fresh ⟨shape, denotes, refers⟩) failed
    · exact absurd rfl (own.not_cyclic ids)

private theorem chain_split {r : Ref} {chain : List Ref} (met : r ∈ chain) :
    ∃ before loop, chain = before ++ r :: loop ∧ loopFrom r chain = r :: loop := by
  induction chain with
  | nil => simp at met
  | cons s chain ih =>
    by_cases same : s = r
    · subst same
      exact ⟨[], chain, rfl, by simp [loopFrom]⟩
    · have later : r ∈ chain := by
        rcases List.mem_cons.mp met with equal | later
        · exact absurd equal.symm same
        · exact later
      obtain ⟨before, loop, split, opened⟩ := ih later
      exact ⟨s :: before, loop, by simp [split], by simpa [loopFrom, same] using opened⟩

private theorem canonical_of_isChain {r : Ref} {refs : List Ref}
    (isChain : List.IsChain (Refers graph) (r :: refs)) : ∀ s ∈ refs, s.IsCanonical := by
  induction refs generalizing r with
  | nil => simp
  | cons t refs ih =>
    obtain ⟨refers, isChain⟩ := List.isChain_cons_cons.mp isChain
    intro s member
    rcases List.mem_cons.mp member with rfl | member
    · exact refers.isCanonical
    · exact ih isChain s member

private theorem isCycleFrom_of_met (visits : Visits graph start chain r) (met : r ∈ chain) :
    IsCycleFrom graph start ((loopFrom r chain).map Ref.id ++ [r.id]) := by
  obtain ⟨before, loop, split, loops⟩ := chain_split met
  have isChain := visits.isChain
  have nodup := visits.nodup
  rw [split] at isChain nodup
  rw [List.append_assoc] at isChain
  have isLoop : List.IsChain (Refers graph) ((r :: loop) ++ [r]) := isChain.right_of_append
  have followed : ∀ s ∈ loop ++ [r], s.IsCanonical := canonical_of_isChain isLoop
  refine ⟨r, loop, by simp [loops], nodup_ids (List.nodup_append.mp nodup).2.1 ?_, isLoop,
    visits.reaches⟩
  intro s member
  rcases List.mem_cons.mp member with rfl | member
  · exact followed s (by simp)
  · exact followed s (List.mem_append_left _ member)

private theorem transGen_of_isChain {r s : Ref} {refs : List Ref}
    (isChain : List.IsChain (Refers graph) ((r :: refs) ++ [s])) :
    TransGen (Refers graph) r s := by
  induction refs generalizing r with
  | nil => exact .single (by simpa using isChain)
  | cons t refs ih =>
    obtain ⟨refers, isChain⟩ := List.isChain_cons_cons.mp isChain
    exact .head refers (ih isChain)

/-- In a well-formed graph nothing but a cycle stands in the way of an unfolding. -/
private theorem cyclic_of_wellFormed {e : Failure} (wellFormed : WellFormedFrom graph r)
    (failed : resolveWith graph fuel chain r = .error e) :
    (∃ ids, e = .schema (.cyclic ids)) ∨ e = .fault .endlessNesting := by
  induction fuel generalizing chain r with
  | zero => exact Or.inr (Except.error.inj failed).symm
  | succ fuel ih =>
    rcases reference_cases graph chain r with scope | ⟨shape, denotes, met⟩ |
      ⟨shape, denotes, fresh⟩ | ⟨scope, absent⟩
    · simp [resolveWith_prelude scope] at failed
    · rw [resolveWith_met denotes met] at failed
      exact Or.inl ⟨_, (Except.error.inj failed).symm⟩
    · rw [resolveWith_shape denotes fresh] at failed
      obtain ⟨content, parts, d, also, layer⟩ := wellFormed r .refl denotes.1
      obtain rfl := denotes.unique also
      obtain ⟨p, member, failed⟩ := layer.unfoldShape_eq_error failed
      have refers : Refers graph r p.1 :=
        ⟨shape, denotes, (layer.refers p.1).mp (List.mem_map.mpr ⟨p, member, rfl⟩)⟩
      exact ih (fun s reaches => wellFormed s (reaches.head refers)) failed
    · obtain ⟨shape, _, _, denotes, _⟩ := wellFormed r .refl scope
      exact absurd denotes (absent shape)

/-- Unfolding ends: a shape unfolds as the references it makes do with one more ancestor, and the
fuel is never used up, since the chain of a visited reference holds distinct references to shapes of
the graph. A cycle that is told of is one of the graph. Where the reachable shapes are well-formed,
a cycle is told of exactly when one is reachable. -/
theorem resolve_cycles (graph : Graph) (start : Ref) :
    ((∀ chain r shape unfold, Denotes graph r shape → r ∉ chain →
        (∀ t, Refers graph r t → unfold t = resolveFrom graph (chain ++ [r]) t) →
        resolveFrom graph chain r = unfoldShape unfold r.id shape) ∧
      resolve graph start ≠ faulty .endlessNesting) ∧
    (∀ chain r, Visits graph start chain r → chain.Nodup ∧
      (∀ s ∈ chain, ∃ shape, Denotes graph s shape) ∧ chain.length ≤ graph.length + 1 ∧
      (start.IsCanonical → (chain.map Ref.id).Nodup)) ∧
    (∀ ids, resolve graph start = refuse (.cyclic ids) → IsCycleFrom graph start ids) ∧
    (WellFormedFrom graph start → ((∃ ids, resolve graph start = refuse (.cyclic ids)) ↔
      ∃ r, ReflTransGen (Refers graph) start r ∧ TransGen (Refers graph) r r)) := by
  have told (ids : List String) (failed : resolve graph start = refuse (.cyclic ids)) :
      IsCycleFrom graph start ids := by
    obtain ⟨chain, r, visits, met, rfl⟩ := cycle_closed .start failed
    exact isCycleFrom_of_met visits met
  refine ⟨⟨?_, resolveFrom_ne_endless graph [] start⟩, ?_, told, ?_⟩
  · intro chain r shape unfold denotes fresh agree
    rw [resolveFrom_shape denotes fresh]
    exact unfoldShape_congr fun t refers => (agree t ⟨shape, denotes, refers⟩).symm
  · intro chain r visits
    exact ⟨visits.nodup, visits.denotes, visits.length_le, visits.nodup_ids⟩
  · intro wellFormed
    constructor
    · rintro ⟨ids, failed⟩
      obtain ⟨r, loop, -, -, isChain, reaches⟩ := told ids failed
      exact ⟨r, reaches, transGen_of_isChain isChain⟩
    · rintro ⟨r, reaches, cycle⟩
      cases resolved : resolve graph start with
      | ok d =>
        obtain ⟨e, within⟩ := (unfolds_of_resolveWith resolved).of_reaches reaches
        exact absurd cycle within.not_cyclic
      | error e =>
        rcases cyclic_of_wellFormed wellFormed resolved with ⟨ids, rfl⟩ | rfl
        · exact ⟨ids, rfl⟩
        · exact absurd resolved (resolveFrom_ne_endless graph [] start)

private def forestGraph : Graph := [
  (.str "a#Forest", .map [(.str "type", .str "map"),
    (.str "key", .map [(.str "target", .str "smithy.api#String")]),
    (.str "value", .map [(.str "target", .str "a#Tree")])]),
  (.str "a#Tree", .map [(.str "type", .str "structure"), (.str "members", .map [
    (.str "size", .map [(.str "target", .str "smithy.api#Integer")]),
    (.str "trees", .map [(.str "target", .str "a#Trees")])])]),
  (.str "a#Trees", .map [(.str "type", .str "list"),
    (.str "member", .map [(.str "target", .str "a#Tree")])])]

private theorem forest_refers {r t : Ref} (refers : Refers forestGraph r t)
    (listed : r = ⟨"a", "Forest"⟩ ∨ r = ⟨"a", "Tree"⟩ ∨ r = ⟨"a", "Trees"⟩) :
    t = ⟨"a", "Tree"⟩ ∨ t = ⟨"a", "Trees"⟩ ∨ t.scope = preludeScope := by
  obtain ⟨shape, denotes, m, member, targets⟩ := refers
  rcases listed with rfl | rfl | rfl <;> obtain rfl := Value.map.inj (Option.some.inj denotes.2)
  · have members : m = .map [(.str "target", .str "smithy.api#String")] ∨
        m = .map [(.str "target", .str "a#Tree")] :=
      (List.mem_cons.mp member).imp_right List.mem_singleton.mp
    rcases members with rfl | rfl
    · have equal : t = ⟨"smithy.api", "String"⟩ :=
        targets.unique ⟨"smithy.api#String", rfl, rfl⟩
      exact Or.inr (Or.inr (equal ▸ rfl))
    · exact Or.inl (targets.unique ⟨"a#Tree", rfl, rfl⟩)
  · have members : m = .map [(.str "target", .str "smithy.api#Integer")] ∨
        m = .map [(.str "target", .str "a#Trees")] :=
      (List.mem_cons.mp member).imp_right List.mem_singleton.mp
    rcases members with rfl | rfl
    · have equal : t = ⟨"smithy.api", "Integer"⟩ :=
        targets.unique ⟨"smithy.api#Integer", rfl, rfl⟩
      exact Or.inr (Or.inr (equal ▸ rfl))
    · exact Or.inr (Or.inl (targets.unique ⟨"a#Trees", rfl, rfl⟩))
  · obtain rfl : m = .map [(.str "target", .str "a#Tree")] := List.mem_singleton.mp member
    exact Or.inl (targets.unique ⟨"a#Tree", rfl, rfl⟩)

private theorem forest_reaches {r : Ref}
    (reaches : ReflTransGen (Refers forestGraph) ⟨"a", "Forest"⟩ r) :
    (r = ⟨"a", "Forest"⟩ ∨ r = ⟨"a", "Tree"⟩ ∨ r = ⟨"a", "Trees"⟩) ∨ r.scope = preludeScope := by
  induction reaches with
  | refl => exact Or.inl (Or.inl rfl)
  | tail _ refers ih =>
    rcases ih with listed | scope
    · rcases forest_refers refers listed with tree | trees | prelude
      · exact Or.inl (Or.inr (Or.inl tree))
      · exact Or.inl (Or.inr (Or.inr trees))
      · exact Or.inr prelude
    · obtain ⟨_, denotes, _⟩ := refers
      exact absurd scope denotes.1

private theorem describes_of_unfoldShape {shape : Entries} {d : TypeTree}
    (unfolded : unfoldShape (fun _ => .ok .document) "" shape = .ok d) :
    ∃ parts, Layer shape parts d := by
  obtain ⟨parts, layer, -⟩ := unfoldShape_eq_ok.mp unfolded
  exact ⟨parts, layer⟩

private theorem forest_wellFormed : WellFormedFrom forestGraph ⟨"a", "Forest"⟩ := by
  intro r reaches scope
  suffices unfolds : ∃ shape d, forestGraph.get? r.id = some (.map shape) ∧
      unfoldShape (fun _ => .ok .document) "" shape = .ok d by
    obtain ⟨shape, d, found, unfolded⟩ := unfolds
    obtain ⟨parts, layer⟩ := describes_of_unfoldShape unfolded
    exact ⟨shape, parts, d, ⟨scope, found⟩, layer⟩
  rcases forest_reaches reaches with listed | prelude
  · rcases listed with rfl | rfl | rfl <;> exact ⟨_, _, rfl, rfl⟩
  · exact absurd prelude scope

/-- A cycle that is entered half-way, through a map and a list. -/
theorem resolve_forest : WellFormedFrom forestGraph ⟨"a", "Forest"⟩ ∧
    resolve forestGraph ⟨"a", "Forest"⟩ = refuse (.cyclic ["a#Tree", "a#Trees", "a#Tree"]) ∧
    IsCycleFrom forestGraph ⟨"a", "Forest"⟩ ["a#Tree", "a#Trees", "a#Tree"] ∧
    ∃ r, ReflTransGen (Refers forestGraph) ⟨"a", "Forest"⟩ r ∧
      TransGen (Refers forestGraph) r r := by
  have wellFormed := forest_wellFormed
  have failed : resolve forestGraph ⟨"a", "Forest"⟩
      = refuse (.cyclic ["a#Tree", "a#Trees", "a#Tree"]) := by rfl
  have cycles := resolve_cycles forestGraph ⟨"a", "Forest"⟩
  exact ⟨wellFormed, failed, cycles.2.2.1 _ failed, (cycles.2.2.2 wellFormed).mp ⟨_, failed⟩⟩

end Cycles

/-! ### Chains of ids

An unfolding compares the references of its chain and finds shapes by their ids. On sound
references, and a model leads to no others, both come to the same.
-/

/-- Unfolds an id whose ancestors are on a chain of ids. No reference is kept: an id is what is met
again, what a shape is found by and what a cycle is told in. -/
def resolveIdWith (graph : Graph) : Nat → List String → String → Outcome TypeTree
  | 0, _, _ => faulty .endlessNesting
  | fuel + 1, chain, id =>
    match Ref.parse? id with
    | none => refuse (.invalidId id)
    | some ref =>
      if ref.scope = preludeScope then .ok (preludeType ref.name)
      else match graph.get? id with
        | some (.map shape) =>
          if id ∈ chain then refuse (.cyclic (chain.dropWhile (· != id) ++ [id]))
          else unfoldShape (fun t => resolveIdWith graph fuel (chain ++ [id]) t.id) id shape
        | _ => refuse (.notFound id)

def resolveIdFrom (graph : Graph) (chain : List String) (id : String) : Outcome TypeTree :=
  resolveIdWith graph (graph.length + 2) chain id

section Ids

variable {graph : Graph} {chain : List Ref} {r : Ref}

theorem id_mem_ids_iff (canonical : ∀ s ∈ chain, s.IsCanonical) (own : r.IsCanonical) :
    r.id ∈ chain.map Ref.id ↔ r ∈ chain := by
  constructor
  · intro met
    obtain ⟨s, member, same⟩ := List.mem_map.mp met
    exact (canonical s member).eq_of_id_eq own same ▸ member
  · exact List.mem_map_of_mem

theorem ids_loopFrom (canonical : ∀ s ∈ chain, s.IsCanonical) (own : r.IsCanonical) :
    (loopFrom r chain).map Ref.id = (chain.map Ref.id).dropWhile (· != r.id) := by
  induction chain with
  | nil => rfl
  | cons s chain ih =>
    obtain ⟨first, others⟩ := List.forall_mem_cons.mp canonical
    by_cases same : s = r
    · simp [loopFrom, same]
    · have apart : s.id ≠ r.id := fun equal => same (first.eq_of_id_eq own equal)
      simpa [loopFrom, same, apart] using ih others

/-- Below chains of the same ids a reference and its id unfold alike. -/
theorem resolveWith_eq_resolveIdWith (fuel : Nat) (canonical : ∀ s ∈ chain, s.IsCanonical)
    (own : r.IsCanonical) :
    resolveWith graph fuel chain r = resolveIdWith graph fuel (chain.map Ref.id) r.id := by
  induction fuel generalizing chain r with
  | zero => rfl
  | succ fuel ih =>
    have parsed : Ref.parse? r.id = some r := own
    have met_iff := id_mem_ids_iff canonical own
    rw [resolveIdWith, parsed]
    rcases reference_cases graph chain r with scope | ⟨shape, denotes, met⟩ |
      ⟨shape, denotes, fresh⟩ | ⟨scope, absent⟩
    · simp [resolveWith_prelude scope, scope]
    · simp only [resolveWith_met denotes met, denotes.1, denotes.2, met_iff, met, if_true, if_false,
        ids_loopFrom canonical own]
    · simp only [resolveWith_shape denotes fresh, denotes.1, denotes.2, met_iff, fresh, if_false]
      apply unfoldShape_congr
      -- what the shape refers to is read from an id, and so is canonical again
      intro t refers
      have longer : ∀ s ∈ chain ++ [r], s.IsCanonical :=
        List.forall_mem_append.mpr ⟨canonical, List.forall_mem_singleton.mpr own⟩
      simpa using ih longer (Refers.isCanonical ⟨shape, denotes, refers⟩)
    · simp only [resolveWith_absent scope absent, scope, if_false]
      split
      · rename_i shape found
        exact absurd ⟨scope, found⟩ (absent shape)
      · rfl

/-- All that an unfolding visits from a sound reference is sound. -/
theorem Visits.isSound {start : Ref} (visits : Visits graph start chain r) (sound : start.IsSound) :
    ∀ s ∈ chain ++ [r], s.IsSound := by
  intro s visited
  rcases visits.isCanonical s visited with rfl | canonical
  · exact sound
  · exact Ref.isCanonical_iff_isSound.mp canonical

end Ids

/-- Reading an id and writing a reference undo each other, on the ids that are made of the parts of
a sound reference; all others are refused, and a model gives no reference in another way. So two ids
that are read are equal exactly when their references are: the guard against cycles, which compares
references, answers as one that compares ids, and below any chain of sound references the whole
unfolding is that of their ids. From a sound reference on, an unfolding visits sound references
only, each with no other id than its own. -/
theorem ids_faithful :
    ((∀ id r, Ref.parse? id = some r → r.id = id) ∧
      (∀ r : Ref, r.IsSound → Ref.parse? r.id = some r)) ∧
    ((∀ id, (∃ r, Ref.parse? id = some r) ↔
        ∃ r : Ref, r.IsSound ∧ id = r.scope ++ "#" ++ r.name) ∧
      (∀ id, (¬ ∃ r : Ref, r.IsSound ∧ id = r.scope ++ "#" ++ r.name) →
        refOf (.str id) = refuse (.invalidId id)) ∧
      (∀ v r, refOf v = .ok r ↔ r.IsSound ∧ v = .str r.id)) ∧
    (∀ id other r s, Ref.parse? id = some r → Ref.parse? other = some s →
      (id = other ↔ r = s)) ∧
    (∀ (graph : Graph) (chain : List Ref) (r : Ref), (∀ s ∈ r :: chain, s.IsSound) →
      (r ∈ chain ↔ r.id ∈ chain.map Ref.id) ∧
      resolveFrom graph chain r = resolveIdFrom graph (chain.map Ref.id) r.id) ∧
    (∀ (graph : Graph) (start : Ref), start.IsSound → ∀ chain r, Visits graph start chain r →
      ∀ s ∈ chain ++ [r], ∀ id, Ref.parse? id = some s ↔ id = s.id) := by
  refine ⟨⟨fun _ _ => Ref.id_of_parse?, fun _ => Ref.IsSound.parse?_id⟩,
    ⟨fun _ => Ref.exists_parse?_iff, fun _ => refOf_refuses, fun _ _ => refOf_eq_ok_iff⟩,
    fun _ _ _ _ => Ref.id_eq_iff_of_parse?, ?_, ?_⟩
  · intro graph chain r sound
    obtain ⟨own, canonical⟩ := List.forall_mem_cons.mp fun s member =>
      Ref.isCanonical_iff_isSound.mpr (sound s member)
    exact ⟨(id_mem_ids_iff canonical own).symm, resolveWith_eq_resolveIdWith _ canonical own⟩
  · intro graph start sound chain r visits s visited id
    constructor
    · exact fun parsed => (Ref.id_of_parse? parsed).symm
    · rintro rfl
      exact (visits.isSound sound s visited).parse?_id

private def linkGraph : Graph := [
  (.str "a$b#Link#1", .map [(.str "type", .str "structure"), (.str "members", .map [
    (.str "next", .map [(.str "target", .str "a$b#Links")])])]),
  (.str "a$b#Links", .map [(.str "type", .str "list"),
    (.str "member", .map [(.str "target", .str "a$b#Link#1")])])]

private theorem link_visits :
    Visits linkGraph ⟨"a$b", "Link#1"⟩ [⟨"a$b", "Link#1"⟩] ⟨"a$b", "Links"⟩ :=
  .next .start List.not_mem_nil
    ⟨_, ⟨by decide, rfl⟩, _, List.mem_cons_self, "a$b#Links", rfl, rfl⟩

private theorem link_isSound : (⟨"a$b", "Link#1"⟩ : Ref).IsSound :=
  ⟨by decide, by decide, by decide, by decide⟩

private theorem links_isSound : (⟨"a$b", "Links"⟩ : Ref).IsSound :=
  ⟨by decide, by decide, by decide, by decide⟩

/-- A scope with a `$` and a name with a `#`, on a cycle; an id with the marks the other way round
is refused. -/
theorem ids_faithful_links :
    (⟨"a$b", "Link#1"⟩ : Ref).IsSound ∧ (⟨"a$b", "Links"⟩ : Ref).IsSound ∧
    Ref.parse? "a$b#Link#1" = some ⟨"a$b", "Link#1"⟩ ∧ "a$b#Link#1" ≠ "a$b#Links" ∧
    (¬ ∃ r : Ref, r.IsSound ∧ "a#b$Link" = r.scope ++ "#" ++ r.name) ∧
    refOf (.str "a#b$Link") = refuse (.invalidId "a#b$Link") ∧
    (Visits linkGraph ⟨"a$b", "Link#1"⟩ [⟨"a$b", "Link#1"⟩] ⟨"a$b", "Links"⟩ ∧
      ∀ id, Ref.parse? id = some ⟨"a$b", "Links"⟩ ↔ id = "a$b#Links") ∧
    resolveFrom linkGraph [⟨"a$b", "Link#1"⟩] ⟨"a$b", "Links"⟩
      = refuse (.cyclic ["a$b#Link#1", "a$b#Links", "a$b#Link#1"]) ∧
    resolveIdFrom linkGraph ["a$b#Link#1"] "a$b#Links"
      = refuse (.cyclic ["a$b#Link#1", "a$b#Links", "a$b#Link#1"]) := by
  obtain ⟨⟨-, reads⟩, ⟨accepts, refuses, -⟩, equal_iff, agree, visited⟩ := ids_faithful
  have first := reads _ link_isSound
  have second := reads _ links_isSound
  have apart := (equal_iff _ _ _ _ first second).not.mpr (by decide)
  have unread : ¬ ∃ r : Ref, r.IsSound ∧ "a#b$Link" = r.scope ++ "#" ++ r.name := by
    rw [← accepts]
    rintro ⟨r, parsed⟩
    have none : Ref.parse? "a#b$Link" = none := by rfl
    simp [none] at parsed
  have cyclic : resolveFrom linkGraph [⟨"a$b", "Link#1"⟩] ⟨"a$b", "Links"⟩
      = refuse (.cyclic ["a$b#Link#1", "a$b#Links", "a$b#Link#1"]) := by rfl
  have alike := (agree linkGraph [⟨"a$b", "Link#1"⟩] ⟨"a$b", "Links"⟩
    (by simpa using ⟨links_isSound, link_isSound⟩)).2
  refine ⟨link_isSound, links_isSound, first, apart, unread, refuses _ unread, ⟨link_visits, ?_⟩,
    cyclic, alike.symm.trans cyclic⟩
  exact visited linkGraph _ link_isSound _ _ link_visits ⟨"a$b", "Links"⟩ (by simp)

end ServiceCli.Shape
