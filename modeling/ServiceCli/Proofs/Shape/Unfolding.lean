import Mathlib.Data.List.Nodup
import Mathlib.Logic.Relation
import ServiceCli.Proofs.Data.Entries
import ServiceCli.Proofs.Data.JsonValue
import ServiceCli.Proofs.Shape.MemberName
import ServiceCli.Proofs.Shape.Reference

/-!
Finite unfoldings. A reference unfolds to a type tree when its shape describes a layer and each of
the references of that layer unfolds in turn; nothing is said of the way on which it was reached.
Main statements: unfolding with a chain of ancestors answers a type tree exactly when there is such
a finite unfolding, so the guard against cycles refuses nothing that has one; and in what a JSON
model unfolds to, the member names of every structure differ.
-/

set_option autoImplicit false
set_option relaxedAutoImplicit false

namespace ServiceCli.Shape

open ServiceCli.Data

/-- A reference outside the prelude denotes the shape that the graph holds under its id. -/
def Denotes (graph : Graph) (r : Ref) (shape : Entries) : Prop :=
  r.scope ≠ preludeScope ∧ graph.get? r.id = some (.map shape)

def Refers (graph : Graph) (r t : Ref) : Prop :=
  ∃ shape, Denotes graph r shape ∧ ShapeRefers shape t

/-- The finite unfolding of a reference. -/
inductive Unfolds (graph : Graph) : Ref → TypeTree → Prop
  | primitive {r : Ref} : r.scope = preludeScope → Text.lower r.name ≠ "blob" →
      Text.lower r.name ≠ "document" → Unfolds graph r (.primitive (Text.lower r.name))
  | blob {r : Ref} : r.scope = preludeScope → Text.lower r.name = "blob" →
      Unfolds graph r (.blob false)
  | document {r : Ref} : r.scope = preludeScope → Text.lower r.name = "document" →
      Unfolds graph r .document
  | shape {r : Ref} {shape : Entries} {parts : List (Ref × TypeTree)} {d : TypeTree} :
      Denotes graph r shape → Layer shape parts d →
      (∀ p ∈ parts, Unfolds graph p.1 p.2) → Unfolds graph r d

section Fuel

variable {graph : Graph}

theorem Denotes.unique {r : Ref} {shape other : Entries} (denotes : Denotes graph r shape)
    (also : Denotes graph r other) : shape = other := by
  have same := denotes.2.symm.trans also.2
  simpa using same

theorem Refers.isCanonical {r t : Ref} (refers : Refers graph r t) : t.IsCanonical := by
  obtain ⟨_, _, _, _, _, _, parsed⟩ := refers
  exact Ref.isCanonical_of_parse? parsed

/-- The references that the ids of a graph denote. -/
def graphRefs (graph : Graph) : List Ref :=
  graph.filterMap fun
    | (.str id, _) => Ref.parse? id
    | _ => none

/-- The references of a graph that are not yet on a chain. -/
def unvisited (graph : Graph) (chain : List Ref) : List Ref :=
  (graphRefs graph).filter fun r => decide (r ∉ chain)

theorem mem_graphRefs {r : Ref} {shape : Entries} (canonical : r.IsCanonical)
    (denotes : Denotes graph r shape) : r ∈ graphRefs graph :=
  List.mem_filterMap.mpr ⟨_, Entries.mem_of_get? denotes.2, canonical⟩

theorem unvisited_length_le (graph : Graph) (chain : List Ref) :
    (unvisited graph chain).length ≤ graph.length :=
  Nat.le_trans (List.length_filter_le _ _) (List.length_filterMap_le _ _)

theorem unvisited_append (graph : Graph) (chain : List Ref) (r : Ref) :
    unvisited graph (chain ++ [r]) = (unvisited graph chain).filter fun s => decide (s ≠ r) := by
  simp only [unvisited, List.filter_filter]
  apply List.filter_congr
  intro s _
  by_cases same : s = r <;> simp [same]

theorem unvisited_append_lt {chain : List Ref} {r : Ref} {shape : Entries}
    (canonical : r.IsCanonical) (denotes : Denotes graph r shape) (fresh : r ∉ chain) :
    (unvisited graph (chain ++ [r])).length < (unvisited graph chain).length := by
  rw [unvisited_append, List.length_filter_lt_length_iff_exists]
  have member : r ∈ unvisited graph chain :=
    List.mem_filter.mpr ⟨mem_graphRefs canonical denotes, by simpa using fresh⟩
  exact ⟨r, member, by simp⟩

theorem reference_cases (graph : Graph) (chain : List Ref) (r : Ref) :
    r.scope = preludeScope ∨ (∃ shape, Denotes graph r shape ∧ r ∈ chain) ∨
      (∃ shape, Denotes graph r shape ∧ r ∉ chain) ∨
      (r.scope ≠ preludeScope ∧ ∀ shape, ¬ Denotes graph r shape) := by
  by_cases scope : r.scope = preludeScope
  · exact Or.inl scope
  · by_cases present : ∃ shape, Denotes graph r shape
    · obtain ⟨shape, denotes⟩ := present
      by_cases met : r ∈ chain
      · exact Or.inr (Or.inl ⟨shape, denotes, met⟩)
      · exact Or.inr (Or.inr (Or.inl ⟨shape, denotes, met⟩))
    · exact Or.inr (Or.inr (Or.inr ⟨scope, not_exists.mp present⟩))

variable {chain : List Ref} {r : Ref} {shape : Entries}

theorem resolveWith_prelude (scope : r.scope = preludeScope) (fuel : Nat) (chain : List Ref) :
    resolveWith graph (fuel + 1) chain r = .ok (preludeType r.name) := by
  simp [resolveWith, scope]

theorem resolveWith_met (denotes : Denotes graph r shape) (met : r ∈ chain) (fuel : Nat) :
    resolveWith graph (fuel + 1) chain r
      = refuse (.cyclic ((loopFrom r chain).map Ref.id ++ [r.id])) := by
  simp [resolveWith, denotes.1, denotes.2, met]

theorem resolveWith_shape (denotes : Denotes graph r shape) (fresh : r ∉ chain) (fuel : Nat) :
    resolveWith graph (fuel + 1) chain r
      = unfoldShape (resolveWith graph fuel (chain ++ [r])) r.id shape := by
  simp [resolveWith, denotes.1, denotes.2, fresh]

theorem resolveWith_absent (scope : r.scope ≠ preludeScope)
    (absent : ∀ shape, ¬ Denotes graph r shape) (fuel : Nat) (chain : List Ref) :
    resolveWith graph (fuel + 1) chain r = refuse (.notFound r.id) := by
  simp only [resolveWith, scope, if_false]
  split
  · rename_i shape found
    exact absurd ⟨scope, found⟩ (absent shape)
  · rfl

/-- With more fuel than there are unvisited references, the fuel makes no difference. -/
theorem resolveWith_fuel {fuel other : Nat} (canonical : r.IsCanonical)
    (enough : (unvisited graph chain).length < fuel)
    (enoughOther : (unvisited graph chain).length < other) :
    resolveWith graph fuel chain r = resolveWith graph other chain r := by
  induction fuel generalizing other chain r with
  | zero => omega
  | succ fuel ih =>
    obtain ⟨other, rfl⟩ : ∃ n, other = n + 1 := ⟨other - 1, by omega⟩
    rcases reference_cases graph chain r with scope | ⟨shape, denotes, met⟩ |
      ⟨shape, denotes, fresh⟩ | ⟨scope, absent⟩
    · rw [resolveWith_prelude scope, resolveWith_prelude scope]
    · rw [resolveWith_met denotes met, resolveWith_met denotes met]
    · rw [resolveWith_shape denotes fresh, resolveWith_shape denotes fresh]
      have fewer := unvisited_append_lt canonical denotes fresh
      apply unfoldShape_congr
      intro t refers
      exact ih (Refers.isCanonical ⟨shape, denotes, refers⟩) (by omega) (by omega)
    · rw [resolveWith_absent scope absent, resolveWith_absent scope absent]

/-- A shape unfolds as its references do with one more ancestor; no fuel is in sight. -/
theorem resolveFrom_shape (denotes : Denotes graph r shape) (fresh : r ∉ chain) :
    resolveFrom graph chain r
      = unfoldShape (resolveFrom graph (chain ++ [r])) r.id shape := by
  rw [resolveFrom, resolveWith_shape denotes fresh]
  apply unfoldShape_congr
  intro t refers
  have bound := unvisited_length_le graph (chain ++ [r])
  exact resolveWith_fuel (Refers.isCanonical ⟨shape, denotes, refers⟩) (by omega) (by omega)

theorem resolveWith_eq_error {fuel : Nat} {e : Failure}
    (failed : resolveWith graph (fuel + 1) chain r = .error e) :
    (∃ shape, Denotes graph r shape ∧ r ∈ chain ∧
      e = .schema (.cyclic ((loopFrom r chain).map Ref.id ++ [r.id]))) ∨
    (∃ shape t, Denotes graph r shape ∧ r ∉ chain ∧ ShapeRefers shape t ∧
      resolveWith graph fuel (chain ++ [r]) t = .error e) ∨
    IsLocal e := by
  rcases reference_cases graph chain r with scope | ⟨shape, denotes, met⟩ |
    ⟨shape, denotes, fresh⟩ | ⟨scope, absent⟩
  · simp [resolveWith_prelude scope] at failed
  · rw [resolveWith_met denotes met] at failed
    exact Or.inl ⟨shape, denotes, met, (Except.error.inj failed).symm⟩
  · rw [resolveWith_shape denotes fresh] at failed
    rcases unfoldShape_eq_error failed with ⟨t, refers, failed⟩ | own
    · exact Or.inr (Or.inl ⟨shape, t, denotes, fresh, refers, failed⟩)
    · exact Or.inr (Or.inr own)
  · rw [resolveWith_absent scope absent] at failed
    exact Or.inr (Or.inr (isLocal_of_refuse (by simp) failed))

private theorem resolveWith_ne_endless {fuel : Nat} (canonical : r.IsCanonical)
    (enough : (unvisited graph chain).length < fuel) :
    resolveWith graph fuel chain r ≠ faulty .endlessNesting := by
  induction fuel generalizing chain r with
  | zero => omega
  | succ fuel ih =>
    intro endless
    rcases resolveWith_eq_error endless with ⟨_, _, _, cyclic⟩ |
      ⟨shape, t, denotes, fresh, refers, endless⟩ | own
    · simp at cyclic
    · have fewer := unvisited_append_lt canonical denotes fresh
      exact ih (Refers.isCanonical ⟨shape, denotes, refers⟩) (by omega) endless
    · exact own.not_endless rfl

theorem resolveFrom_ne_endless (graph : Graph) (chain : List Ref) (r : Ref) :
    resolveFrom graph chain r ≠ faulty .endlessNesting := by
  intro endless
  rcases resolveWith_eq_error endless with ⟨_, _, _, cyclic⟩ |
    ⟨shape, t, denotes, fresh, refers, endless⟩ | own
  · simp at cyclic
  · have bound := unvisited_length_le graph (chain ++ [r])
    exact resolveWith_ne_endless (Refers.isCanonical ⟨shape, denotes, refers⟩) (by omega) endless
  · exact own.not_endless rfl

end Fuel

section Correctness

variable {graph : Graph} {chain : List Ref} {r : Ref} {d : TypeTree}

private theorem unfolds_prelude (scope : r.scope = preludeScope) :
    Unfolds graph r (preludeType r.name) := by
  unfold preludeType
  dsimp only
  split
  · rename_i blob
    exact .blob scope blob
  · rename_i other
    split
    · rename_i document
      exact .document scope document
    · rename_i primitive
      exact .primitive scope other primitive

/-- Whatever the chain, what is answered is a finite unfolding. -/
theorem unfolds_of_resolveWith {fuel : Nat} (resolved : resolveWith graph fuel chain r = .ok d) :
    Unfolds graph r d := by
  induction fuel generalizing chain r d with
  | zero => simp [resolveWith, faulty] at resolved
  | succ fuel ih =>
    rcases reference_cases graph chain r with scope | ⟨shape, denotes, met⟩ |
      ⟨shape, denotes, fresh⟩ | ⟨scope, absent⟩
    · rw [resolveWith_prelude scope] at resolved
      exact Except.ok.inj resolved ▸ unfolds_prelude scope
    · simp [resolveWith_met denotes met, refuse] at resolved
    · rw [resolveWith_shape denotes fresh] at resolved
      obtain ⟨parts, layer, each⟩ := unfoldShape_eq_ok.mp resolved
      exact .shape denotes layer fun p member => ih (each p member)
    · simp [resolveWith_absent scope absent, refuse] at resolved

/-- A reference with a finite unfolding starts no infinite chain of references. -/
theorem Unfolds.acc (unfolds : Unfolds graph r d) : Acc (fun t s => Refers graph s t) r := by
  induction unfolds with
  | primitive scope => exact ⟨_, fun t ⟨_, denotes, _⟩ => absurd scope denotes.1⟩
  | blob scope => exact ⟨_, fun t ⟨_, denotes, _⟩ => absurd scope denotes.1⟩
  | document scope => exact ⟨_, fun t ⟨_, denotes, _⟩ => absurd scope denotes.1⟩
  | shape denotes layer _ ih =>
    refine ⟨_, fun t ⟨_, also, refers⟩ => ?_⟩
    obtain rfl := denotes.unique also
    obtain ⟨p, member, rfl⟩ := List.mem_map.mp ((layer.refers t).mpr refers)
    exact ih p member

theorem Unfolds.not_cyclic (unfolds : Unfolds graph r d) :
    ¬ Relation.TransGen (Refers graph) r r := by
  have accessible := unfolds.acc
  clear unfolds
  induction accessible with
  | intro r _ ih =>
    intro cycle
    obtain ⟨t, refers, back⟩ := Relation.TransGen.head'_iff.mp cycle
    exact ih t refers (Relation.TransGen.tail' back refers)

theorem Unfolds.of_reaches {t : Ref} (unfolds : Unfolds graph r d)
    (reaches : Relation.ReflTransGen (Refers graph) r t) : ∃ e, Unfolds graph t e := by
  induction reaches with
  | refl => exact ⟨d, unfolds⟩
  | tail _ refers ih =>
    obtain ⟨e, unfolds⟩ := ih
    obtain ⟨_, also, refers⟩ := refers
    cases unfolds with
    | primitive scope => exact absurd scope also.1
    | blob scope => exact absurd scope also.1
    | document scope => exact absurd scope also.1
    | shape denotes layer each =>
      obtain rfl := denotes.unique also
      obtain ⟨p, member, rfl⟩ := List.mem_map.mp ((layer.refers _).mpr refers)
      exact ⟨p.2, each p member⟩

private theorem preludeType_of_unfolds (scope : r.scope = preludeScope)
    (unfolds : Unfolds graph r d) : d = preludeType r.name := by
  cases unfolds with
  | primitive _ other also => simp [preludeType, other, also]
  | blob _ blob => simp [preludeType, blob]
  | document _ document => simp [preludeType, document]
  | shape denotes => exact absurd scope denotes.1

private theorem resolveFrom_prelude (scope : r.scope = preludeScope)
    (unfolds : Unfolds graph r d) (chain : List Ref) : resolveFrom graph chain r = .ok d := by
  rw [preludeType_of_unfolds scope unfolds]
  exact resolveWith_prelude scope _ chain

/-- A finite unfolding is answered below every chain that holds no reference it would meet. -/
theorem resolveFrom_of_unfolds (unfolds : Unfolds graph r d)
    (clear : ∀ s ∈ chain, ¬ Relation.ReflTransGen (Refers graph) r s) :
    resolveFrom graph chain r = .ok d := by
  induction unfolds generalizing chain with
  | primitive scope other also =>
    exact resolveFrom_prelude scope (.primitive scope other also) chain
  | blob scope blob =>
    exact resolveFrom_prelude scope (.blob scope blob) chain
  | document scope document =>
    exact resolveFrom_prelude scope (.document scope document) chain
  | @shape r content parts d denotes layer each ih =>
    have fresh : r ∉ chain := fun met => clear r met .refl
    rw [resolveFrom_shape denotes fresh, unfoldShape_eq_ok]
    refine ⟨parts, layer, fun p member => ih p member ?_⟩
    have refers : Refers graph r p.1 :=
      ⟨content, denotes, (layer.refers p.1).mp (List.mem_map.mpr ⟨p, member, rfl⟩)⟩
    intro s onChain reaches
    rcases List.mem_append.mp onChain with onChain | own
    · exact clear s onChain (reaches.head refers)
    · obtain rfl := List.mem_singleton.mp own
      exact (Unfolds.shape denotes layer each).not_cyclic
        (Relation.TransGen.head' refers reaches)

/-- A reference is answered with a type tree exactly when that tree is its finite unfolding; below
any chain of ancestors the answer, if there is one, is the same. -/
theorem resolve_eq_ok_iff (graph : Graph) (r : Ref) (d : TypeTree) :
    (resolve graph r = .ok d ↔ Unfolds graph r d) ∧
      ∀ chain, resolveFrom graph chain r = .ok d → resolve graph r = .ok d := by
  have complete (unfolds : Unfolds graph r d) : resolve graph r = .ok d :=
    resolveFrom_of_unfolds unfolds (by simp)
  exact ⟨⟨unfolds_of_resolveWith, complete⟩,
    fun _ resolved => complete (unfolds_of_resolveWith resolved)⟩

private def pairGraph : Graph := [
  (.str "a#Pair", .map [(.str "type", .str "structure"), (.str "members", .map [
    (.str "left", .map [(.str "target", .str "a#Point"),
      (.str "traits", .map [(.str "smithy.api#required", .map [])])]),
    (.str "right", .map [(.str "target", .str "a#Point")])])]),
  (.str "a#Point", .map [(.str "type", .str "list"),
    (.str "member", .map [(.str "target", .str "smithy.api#Double")])])]

private def pairType : TypeTree := .structure [
  ⟨"left", .list (.primitive "double"), true, "", false⟩,
  ⟨"right", .list (.primitive "double"), false, "", false⟩]

/-- A shape that two members share is no cycle. -/
theorem resolve_pair :
    resolveFrom pairGraph [⟨"a", "Outer"⟩] ⟨"a", "Pair"⟩ = .ok pairType ∧
      resolve pairGraph ⟨"a", "Pair"⟩ = .ok pairType := by
  have below : resolveFrom pairGraph [⟨"a", "Outer"⟩] ⟨"a", "Pair"⟩ = .ok pairType := by rfl
  exact ⟨below, (resolve_eq_ok_iff pairGraph ⟨"a", "Pair"⟩ pairType).2 _ below⟩

end Correctness

theorem namesDiffer_of_nodup {fields : List Field} (apart : (fields.map Field.name).Nodup)
    (within : ∀ f ∈ fields, f.type.NamesDiffer) : NamesDiffer fields := by
  induction fields with
  | nil => trivial
  | cons f fields ih =>
    have own := within f List.mem_cons_self
    obtain ⟨name, type, _, _, _⟩ := f
    obtain ⟨fresh, others⟩ := List.nodup_cons.mp apart
    exact ⟨fresh, own, ih others fun g member => within g (List.mem_cons_of_mem _ member)⟩

theorem isJson_field {entries : Entries} (json : (Value.map entries).IsJson) (name : String) :
    (Value.field entries name).IsJson := by
  rw [Value.field]
  cases found : entries.get? name with
  | none => exact rfl
  | some v => exact (json.2.of_mem (Entries.mem_of_get? found)).2

theorem isJson_orEmpty {v : Value} (json : v.IsJson) : (orEmpty v).IsJson := by
  rw [orEmpty, Value.orElse]
  split
  · exact json
  · exact ⟨List.nodup_nil, trivial⟩

theorem names_of_describes {members : Entries} {parts : List (Ref × Field)}
    (all : List.Forall₂ (fun m p => Describes m.1 m.2 p.1 p.2) members parts)
    (json : EntriesJson members) :
    members.map Prod.fst = (parts.map fun p => p.2.name).map Key.str := by
  induction all with
  | nil => rfl
  | @cons m p members parts describes _ ih =>
    obtain ⟨k, v⟩ := m
    obtain ⟨⟨name, key⟩, -, others⟩ := json
    subst key
    have named : name = p.2.name := Except.ok.inj describes.named
    rw [List.map_cons, List.map_cons, List.map_cons, ih others, named]

theorem Unfolds.namesDiffer {graph : Graph} (json : (Value.map graph).IsJson) {r : Ref}
    {d : TypeTree} (unfolds : Unfolds graph r d) : d.NamesDiffer := by
  induction unfolds with
  | primitive => trivial
  | blob => trivial
  | document => trivial
  | shape denotes layer _ ih =>
    have shapeJson := (json.2.of_mem (Entries.mem_of_get? denotes.2)).2
    cases layer with
    | blob => trivial
    | document => trivial
    | list => exact ih _ List.mem_cons_self
    | @map _ _ key value _ _ _ =>
      have within := ih (_, value.type) (List.mem_cons_of_mem _ List.mem_cons_self)
      cases value
      exact within
    | @«structure» members parts kind filled all =>
      have membersJson : (Value.map members).IsJson :=
        filled ▸ isJson_orEmpty (isJson_field shapeJson "members")
      have names := names_of_describes all membersJson.2
      have apart : ((parts.map Prod.snd).map Field.name).Nodup := by
        have keys : ((parts.map fun p => p.2.name).map Key.str).Nodup := names ▸ membersJson.1
        rw [List.map_map]
        exact List.Nodup.of_map Key.str keys
      refine namesDiffer_of_nodup apart fun f member => ?_
      obtain ⟨p, source, rfl⟩ := List.mem_map.mp member
      exact ih (p.1, p.2.type) (List.mem_map.mpr ⟨p, source, rfl⟩)

/-! ### Locality

What unfolding a reference depends on. A reference unfolds alike in two graphs that agree on every
shape it leads to, in whatever order the graphs hold their shapes and whatever else they hold. Two
shapes need not be equal for that: the operations that a shape lists are never asked for.
-/

/-- Two shapes that are the same apart from the operations that they list. -/
def SameShape (s₁ s₂ : Entries) : Prop :=
  ∀ name, name ≠ "operations" → Value.field s₁ name = Value.field s₂ name

/-- Two graphs hold the same under an id, apart from the operations that it lists. -/
def AgreeAt (g₁ g₂ : Graph) (id : String) : Prop :=
  g₁.get? id = g₂.get? id
    ∨ ∃ s₁ s₂, g₁.get? id = some (.map s₁) ∧ g₂.get? id = some (.map s₂) ∧ SameShape s₁ s₂

theorem SameShape.refl (shape : Entries) : SameShape shape shape := fun _ _ => rfl

section Shapes

variable {s₁ s₂ : Entries}

theorem SameShape.traitsOf (same : SameShape s₁ s₂) : traitsOf s₁ = traitsOf s₂ := by
  have field := same "traits" (by decide)
  rw [Shape.traitsOf, Shape.traitsOf, field]

theorem SameShape.partOf (same : SameShape s₁ s₂) {part : String} (other : part ≠ "operations")
    (id : String) : partOf s₁ part id = partOf s₂ part id := by
  have field := same part other
  rw [Shape.partOf, Shape.partOf, field]

theorem SameShape.unfoldShape (same : SameShape s₁ s₂) (unfold : Ref → Outcome TypeTree)
    (id : String) : unfoldShape unfold id s₁ = unfoldShape unfold id s₂ := by
  have kind := same "type" (by decide)
  have members := same "members" (by decide)
  have member := same.partOf (show "member" ≠ "operations" by decide) id
  have key := same.partOf (show "key" ≠ "operations" by decide) id
  have value := same.partOf (show "value" ≠ "operations" by decide) id
  simp only [Shape.unfoldShape, kind, members, member, key, value, same.traitsOf]

end Shapes

section Graphs

variable {g₁ g₂ : Graph} {id : String} {r : Ref} {chain : List Ref}

theorem AgreeAt.cases (agree : AgreeAt g₁ g₂ id) :
    (∃ s₁ s₂, g₁.get? id = some (.map s₁) ∧ g₂.get? id = some (.map s₂) ∧ SameShape s₁ s₂)
      ∨ (g₁.get? id = g₂.get? id ∧ ∀ shape, g₁.get? id ≠ some (.map shape)) := by
  rcases agree with equal | shapes
  · by_cases present : ∃ shape, g₁.get? id = some (.map shape)
    · obtain ⟨shape, found⟩ := present
      exact .inl ⟨shape, shape, found, equal ▸ found, SameShape.refl shape⟩
    · exact .inr ⟨equal, not_exists.mp present⟩
  · exact .inl shapes

theorem Denotes.of_agree {s₁ : Entries} (denotes : Denotes g₁ r s₁) (agree : AgreeAt g₁ g₂ r.id) :
    ∃ s₂, Denotes g₂ r s₂ ∧ SameShape s₁ s₂ := by
  rcases agree.cases with ⟨shape, s₂, found, also, same⟩ | ⟨-, none⟩
  · obtain rfl : s₁ = shape := by simpa using denotes.2.symm.trans found
    exact ⟨s₂, ⟨denotes.1, also⟩, same⟩
  · exact absurd denotes.2 (none s₁)

theorem not_denotes_of_agree (absent : ∀ shape, ¬ Denotes g₁ r shape)
    (agree : AgreeAt g₁ g₂ r.id) (shape : Entries) : ¬ Denotes g₂ r shape := by
  intro denotes
  rcases agree.cases with ⟨s₁, _, found, -, -⟩ | ⟨equal, none⟩
  · exact absent s₁ ⟨denotes.1, found⟩
  · exact none shape (equal.trans denotes.2)

/-- A reference unfolds alike in two graphs that agree on all that it leads to. -/
theorem resolveFrom_local (canonical : r.IsCanonical)
    (agree : ∀ t, Relation.ReflTransGen (Refers g₁) r t → AgreeAt g₁ g₂ t.id) :
    resolveFrom g₁ chain r = resolveFrom g₂ chain r := by
  -- on the references that are not yet on the chain: fewer are left after each step
  induction left : (unvisited g₁ chain).length using Nat.strongRecOn
    generalizing chain r with
  | _ n ih =>
    have own := agree r .refl
    rcases reference_cases g₁ chain r with scope | ⟨s₁, denotes, met⟩ |
      ⟨s₁, denotes, fresh⟩ | ⟨scope, absent⟩
    · rw [resolveFrom, resolveFrom, resolveWith_prelude scope, resolveWith_prelude scope]
    · obtain ⟨s₂, also, -⟩ := denotes.of_agree own
      rw [resolveFrom, resolveFrom, resolveWith_met denotes met, resolveWith_met also met]
    · obtain ⟨s₂, also, same⟩ := denotes.of_agree own
      rw [resolveFrom_shape denotes fresh, resolveFrom_shape also fresh, ← same.unfoldShape]
      have fewer := unvisited_append_lt canonical denotes fresh
      apply unfoldShape_congr
      intro t refers
      have step : Refers g₁ r t := ⟨s₁, denotes, refers⟩
      exact ih _ (left ▸ fewer) step.isCanonical (fun u further => agree u (further.head step)) rfl
    · have alsoAbsent := not_denotes_of_agree absent own
      rw [resolveFrom, resolveFrom, resolveWith_absent scope absent,
        resolveWith_absent scope alsoAbsent]

theorem resolveStructure_local (canonical : r.IsCanonical)
    (agree : ∀ t, Relation.ReflTransGen (Refers g₁) r t → AgreeAt g₁ g₂ t.id) :
    resolveStructure g₁ r = resolveStructure g₂ r := by
  have unfolds : resolve g₁ r = resolve g₂ r := resolveFrom_local canonical agree
  rw [resolveStructure, resolveStructure, unfolds]
  rcases (agree r .refl).cases with ⟨s₁, s₂, found, also, same⟩ | ⟨equal, -⟩
  · have kind := same "type" (by decide)
    simp only [found, also, kind]
  · rw [equal]

end Graphs

end ServiceCli.Shape
