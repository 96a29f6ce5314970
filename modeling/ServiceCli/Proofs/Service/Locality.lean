import Mathlib.Data.List.Perm.Basic
import ServiceCli.Proofs.Service.Undocumented
import ServiceCli.Proofs.Shape.Unfolding

/-!
What reading a service depends on: the shape of the service, those of the operations that it lists,
and those that the inputs and the outputs of these lead to. Models that agree on them are read
alike, failures included.
-/

set_option autoImplicit false
set_option relaxedAutoImplicit false

namespace ServiceCli.Service

open ServiceCli.Data ServiceCli.Shape

def ListsAll (shape : Entries) (listed : List Value) : Prop :=
  listedOperations ((Value.field shape "operations").orElse (.list [])) = .ok listed

/-- A reference to the input or the output of an operation shape. -/
def Exchanges (shape : Entries) (r : Ref) : Prop :=
  payloadRef shape "input" = .ok (some r) ∨ payloadRef shape "output" = .ok (some r)

/-- The ids under which reading a service looks a shape up. -/
inductive Consulted (graph : Graph) (id : String) : String → Prop
  | service : Consulted graph id id
  | operation {shape : Entries} {listed : List Value} {entry : Value} {r : Ref} :
      graph.get? id = some (.map shape) → ListsAll shape listed → entry ∈ listed →
      Targets entry r → Consulted graph id r.id
  | exchanged {shape operation : Entries} {listed : List Value} {entry : Value} {r s t : Ref} :
      graph.get? id = some (.map shape) → ListsAll shape listed → entry ∈ listed →
      Targets entry r → graph.get? r.id = some (.map operation) → Exchanges operation s →
      Relation.ReflTransGen (Refers graph) s t → Consulted graph id t.id

/-- Two graphs agree on an operation and on all that its input and its output lead to. -/
structure AgreeOn (g₁ g₂ : Graph) (r : Ref) : Prop where
  own : AgreeAt g₁ g₂ r.id
  reached : ∀ {shape : Entries} {s t : Ref}, g₁.get? r.id = some (.map shape) →
    Exchanges shape s → Relation.ReflTransGen (Refers g₁) s t → AgreeAt g₁ g₂ t.id

section Operation

variable {g₁ g₂ : Graph} {r : Ref} {shape s₁ s₂ : Entries}

theorem payloadRef_same (same : SameShape s₁ s₂) {part : String} (other : part ≠ "operations") :
    payloadRef s₁ part = payloadRef s₂ part := by
  have field := same part other
  rw [payloadRef, payloadRef, field]

theorem canonical_of_payloadRef {part : String} (refers : payloadRef shape part = .ok (some r)) :
    r.IsCanonical := by
  rw [payloadRef] at refers
  split at refers
  · exact absurd (Except.ok.inj refers) (by simp)
  · obtain ⟨s, read, made⟩ := Outcome.bind_eq_ok.mp refers
    obtain ⟨_, -, parsed⟩ := refOf_eq_ok.mp read
    obtain rfl := Option.some.inj (Outcome.pure_eq_ok.mp made)
    exact Ref.isCanonical_of_parse? parsed

theorem payloadOf_local {target : Option Ref} (canonical : ∀ s ∈ target, s.IsCanonical)
    (agree : ∀ s ∈ target, ∀ t, Relation.ReflTransGen (Refers g₁) s t → AgreeAt g₁ g₂ t.id) :
    payloadOf g₁ target = payloadOf g₂ target := by
  cases target with
  | none => rfl
  | some s =>
    have members := resolveStructure_local (canonical s rfl) (agree s rfl)
    rw [payloadOf, payloadOf, members]

theorem extractOperation_local (agree : AgreeOn g₁ g₂ r) :
    extractOperation g₁ r = extractOperation g₂ r := by
  rcases agree.own.cases with ⟨s₁, s₂, found, also, same⟩ | ⟨equal, none⟩
  · have input := payloadRef_same same (show "input" ≠ "operations" by decide)
    have output := payloadRef_same same (show "output" ≠ "operations" by decide)
    have exchanged : ∀ part, part = "input" ∨ part = "output" → ∀ target,
        payloadRef s₁ part = .ok target → payloadOf g₁ target = payloadOf g₂ target := by
      intro part either target refers
      refine payloadOf_local (fun s some => ?_) fun s some t => ?_
      · exact canonical_of_payloadRef (some ▸ refers)
      · have exchanges : Exchanges s₁ s := by
          rcases either with rfl | rfl
          · exact .inl (some ▸ refers)
          · exact .inr (some ▸ refers)
        exact agree.reached found exchanges
    rw [extractOperation, extractOperation, found, also]
    simp only [← same.traitsOf, ← input, ← output]
    -- a failure of either reference comes before the graphs are asked again
    cases toInput : payloadRef s₁ "input" with
    | error e => simp only [Outcome.error_bind]
    | ok inputRef =>
      cases toOutput : payloadRef s₁ "output" with
      | error e => simp only [Outcome.ok_bind, Outcome.error_bind]
      | ok outputRef =>
        have taken := exchanged "input" (.inl rfl) inputRef toInput
        have given := exchanged "output" (.inr rfl) outputRef toOutput
        simp only [Outcome.ok_bind, taken, given]
  · rw [extractOperation, extractOperation, ← equal]
    split
    · rename_i shape found
      exact absurd found (none shape)
    · rfl

theorem extractOperations_local {id : String} {listed : List Value}
    (agree : ∀ entry ∈ listed, ∀ r, Targets entry r → AgreeOn g₁ g₂ r) :
    extractOperations g₁ id listed = extractOperations g₂ id listed := by
  induction listed with
  | nil => rfl
  | cons entry listed ih =>
    have own := agree entry List.mem_cons_self
    have others := ih fun e member => agree e (List.mem_cons_of_mem entry member)
    rw [extractOperations, extractOperations, others]
    cases read : refOf (targetOf entry) with
    | error e => simp only [Outcome.error_bind]
    | ok r =>
      obtain ⟨s, target, parsed⟩ := refOf_eq_ok.mp read
      have same := extractOperation_local (own r ⟨s, target, parsed⟩)
      simp only [Outcome.ok_bind, same]

end Operation

section Service

variable {g₁ g₂ : Graph} {id : String}

theorem agreeOn_of_consulted {shape : Entries} {listed : List Value}
    (agree : ∀ name, Consulted g₁ id name → AgreeAt g₁ g₂ name)
    (found : g₁.get? id = some (.map shape)) (lists : ListsAll shape listed) :
    ∀ entry ∈ listed, ∀ r, Targets entry r → AgreeOn g₁ g₂ r := by
  intro entry member r targets
  refine ⟨agree _ (.operation found lists member targets), ?_⟩
  intro operation s t denoted exchanges reaches
  exact agree _ (.exchanged found lists member targets denoted exchanges reaches)

/-- A service is read alike from models that hold the same under every consulted id. -/
theorem extract_local {model₁ model₂ : Value} (shaped₁ : shapesOf model₁ = .ok (.map g₁))
    (shaped₂ : shapesOf model₂ = .ok (.map g₂))
    (agree : ∀ name, Consulted g₁ id name → g₁.get? name = g₂.get? name) :
    extract model₁ id = extract model₂ id := by
  have own := agree id .service
  have listing : listingOf model₁ id = listingOf model₂ id := by
    rw [listingOf, listingOf, shaped₁, shaped₂]
    simp only [Outcome.ok_bind, entriesOf, ← own]
    cases found : g₁.get? id with
    | none => rfl
    | some v =>
      cases v with
      | map shape =>
        cases lists : listedOperations ((Value.field shape "operations").orElse (.list [])) with
        | error e => simp only [lists, Outcome.error_bind]
        | ok listed =>
          have at_each : ∀ name, Consulted g₁ id name → AgreeAt g₁ g₂ name :=
            fun name member => .inl (agree name member)
          have each := agreeOn_of_consulted at_each found lists
          have operations : extractOperations g₁ id listed = extractOperations g₂ id listed :=
            extractOperations_local each
          simp only [lists, Outcome.ok_bind, operations]
      | _ => rfl
  rw [extract, extract, listing]

end Service

/-! ### A service that grows

A service that grows: its shape lists more operations at the end, and whatever else reading it
consults stays as it is. Main statement: the service that is read then differs only in the
operations at the end, and it is still the only one of its model if the model has only one.
-/

/-- In the second graph a service shape lists more operations at the end; all else that reading the
service consults is the same in both. -/
structure GrowsAt (g₁ g₂ : Graph) (id : String) (s₁ s₂ : Entries) (items more : List Value) :
    Prop where
  found : g₁.get? id = some (.map s₁)
  grown : g₂.get? id = some (.map s₂)
  same : SameShape s₁ s₂
  lists : ListsAll s₁ items
  listsMore : ListsAll s₂ (items ++ more)
  others : ∀ name, Consulted g₁ id name → name ≠ id → g₁.get? name = g₂.get? name

/-- A model in which more operations are listed at the end of a service. -/
def Grows (model grown : Value) (id : String) (more : List Value) : Prop :=
  ∃ g₁ g₂ s₁ s₂ items, shapesOf model = .ok (.map g₁) ∧ shapesOf grown = .ok (.map g₂) ∧
    GrowsAt g₁ g₂ id s₁ s₂ items more

section Graphs

variable {g₁ g₂ : Graph} {id : String} {s₁ s₂ : Entries} {items more : List Value}

theorem GrowsAt.agreeAt (grows : GrowsAt g₁ g₂ id s₁ s₂ items more) {name : String}
    (consulted : Consulted g₁ id name) : AgreeAt g₁ g₂ name := by
  by_cases own : name = id
  · subst own
    exact .inr ⟨s₁, s₂, grows.found, grows.grown, grows.same⟩
  · exact .inl (grows.others name consulted own)

/-- A list of operations that is made longer makes the service grow, whatever shapes come with it,
unless one of these was missing before. -/
theorem growsAt_put (found : g₁.get? id = some (.map s₁)) (lists : ListsAll s₁ items)
    (more : List Value) {fresh : Graph}
    (apart : ∀ name, Consulted g₁ id name → g₁.get? name = none → fresh.get? name = none) :
    let longer := s₁.put (.str "operations") (.list (items ++ more))
    GrowsAt g₁ (g₁.put (.str id) (.map longer) ++ fresh) id s₁ longer items more := by
  intro longer
  refine ⟨found, ?grown, ?same, lists, ?listsMore, ?others⟩
  case grown =>
    rw [Entries.get?_append, Entries.get?_put_same]
    rfl
  case same =>
    intro name other
    rw [Value.field, Value.field, Entries.get?_put_of_ne other]
  case listsMore =>
    rw [ListsAll, Value.field, Entries.get?_put_same]
    cases items ++ more <;> rfl
  case others =>
    intro name consulted other
    rw [Entries.get?_append, Entries.get?_put_of_ne other]
    cases kept : g₁.get? name with
    | none => exact (apart name consulted kept).symm
    | some v => rfl

theorem extractOperations_append {ops : List Operation} :
    extractOperations g₁ id (items ++ more) = .ok ops ↔
      ∃ first rest, extractOperations g₁ id items = .ok first ∧
        extractOperations g₁ id more = .ok rest ∧ ops = first ++ rest := by
  induction items generalizing ops with
  | nil => simp [extractOperations]
  | cons entry items ih =>
    rw [List.cons_append, extractOperations, extractOperations]
    split
    · simp [refuse, bind, Except.bind]
    · simp only [Outcome.bind_eq_ok, Outcome.pure_eq_ok, ih]
      constructor
      · rintro ⟨r, refers, op, own, _, ⟨first, rest, read, left, rfl⟩, rfl⟩
        exact ⟨op :: first, rest, ⟨r, refers, op, own, first, read, rfl⟩, left, rfl⟩
      · rintro ⟨_, rest, ⟨r, refers, op, own, first, read, rfl⟩, left, rfl⟩
        exact ⟨r, refers, op, own, _, ⟨first, rest, read, left, rfl⟩, rfl⟩

theorem extractOperations_length {ops : List Operation}
    (read : extractOperations g₁ id items = .ok ops) : ops.length = items.length := by
  induction items generalizing ops with
  | nil =>
    cases Except.ok.inj read
    rfl
  | cons entry items ih =>
    rw [extractOperations] at read
    split at read
    case isTrue => cases read
    obtain ⟨_, -, read⟩ := Outcome.bind_eq_ok.mp read
    obtain ⟨op, -, read⟩ := Outcome.bind_eq_ok.mp read
    obtain ⟨rest, left, read⟩ := Outcome.bind_eq_ok.mp read
    cases Outcome.pure_eq_ok.mp read
    rw [List.length_cons, List.length_cons, ih left]

theorem GrowsAt.operations (grows : GrowsAt g₁ g₂ id s₁ s₂ items more) {ops all : List Operation}
    (read : extractOperations g₁ id items = .ok ops)
    (readAll : extractOperations g₂ id (items ++ more) = .ok all) :
    ∃ rest, rest.length = more.length ∧ all = ops ++ rest := by
  obtain ⟨first, rest, readFirst, readRest, rfl⟩ := extractOperations_append.mp readAll
  have each := agreeOn_of_consulted (fun _ => grows.agreeAt) grows.found grows.lists
  have alike : extractOperations g₁ id items = extractOperations g₂ id items :=
    extractOperations_local each
  obtain rfl : ops = first := Except.ok.inj (read.symm.trans (alike.trans readFirst))
  exact ⟨rest, extractOperations_length readRest, rfl⟩

theorem GrowsAt.reads (grows : GrowsAt g₁ g₂ id s₁ s₂ items more) {s t : Service}
    (reads : Reads g₁ id s₁ s) (also : Reads g₂ id s₂ t) :
    ∃ rest, rest.length = more.length ∧ t = { s with operations := s.operations ++ rest } := by
  obtain ⟨listed, lists, read⟩ := reads.operations
  obtain ⟨listedAll, listsAll, readAll⟩ := also.operations
  obtain rfl : items = listed := Except.ok.inj (grows.lists.symm.trans lists)
  obtain rfl : items ++ more = listedAll := Except.ok.inj (grows.listsMore.symm.trans listsAll)
  obtain ⟨rest, length, operations⟩ := grows.operations read readAll
  -- all else is read from fields that the two shapes have in common
  have traits := grows.same.traitsOf
  have version := grows.same "version" (by decide)
  have ref : t.ref = s.ref := Option.some.inj (also.refers.symm.trans reads.refers)
  have asks : t.requiresAuth = s.requiresAuth :=
    Except.ok.inj (also.asks.symm.trans (traits ▸ reads.asks))
  have versioned : t.version = s.version :=
    Except.ok.inj (also.versioned.symm.trans (version ▸ reads.versioned))
  have told : t.documentation = s.documentation := by
    obtain ⟨entries, filled, told⟩ := reads.told
    obtain ⟨entries', filled', told'⟩ := also.told
    obtain rfl := Value.map.inj (filled.symm.trans (traits.trans filled'))
    exact Except.ok.inj (told'.symm.trans told)
  refine ⟨rest, length, ?_⟩
  cases t
  simp only at ref asks versioned told operations
  rw [ref, asks, versioned, told, operations]

end Graphs

section Only

variable {model : Value} {graph : Graph} {id other : String}

theorem insertSorted_perm (s : String) (ss : List String) :
    (insertSorted s ss).Perm (s :: ss) := by
  induction ss with
  | nil => exact .refl _
  | cons t ss ih =>
    rw [insertSorted]
    split
    · exact (ih.cons t).trans (.swap s t ss)
    · exact .refl _

theorem sortTexts_perm (ss : List String) : (sortTexts ss).Perm ss := by
  induction ss with
  | nil => exact .refl _
  | cons s ss ih => exact (insertSorted_perm s _).trans (ih.cons s)

theorem keys_of_keyTexts {keys : List Key} {texts : List String}
    (read : keyTexts keys = .ok texts) : keys = texts.map Key.str := by
  induction keys generalizing texts with
  | nil =>
    cases Except.ok.inj read
    rfl
  | cons k keys ih =>
    rw [keyTexts.eq_def] at read
    split at read
    case h_1 empty => cases empty
    case h_3 => cases read
    case h_2 s rest keys =>
      obtain ⟨rfl, rfl⟩ := List.cons.inj keys
      obtain ⟨others, left, read⟩ := Outcome.bind_eq_ok.mp read
      cases Outcome.pure_eq_ok.mp read
      rw [List.map_cons, ih left]

theorem onlyService_eq_ok (only : onlyService model = .ok id)
    (shaped : shapesOf model = .ok (.map graph)) (filled : graph ≠ []) :
    ∃ texts, keyTexts ((graph.filter fun (_, shape) => isService shape).map (·.1)) = .ok texts ∧
      sortTexts texts = [id] := by
  obtain ⟨shapes, under, shaped⟩ := Outcome.bind_eq_ok.mp shaped
  obtain ⟨entries, rfl, rfl⟩ := fieldOf_eq_ok.mp under
  have held := Outcome.pure_eq_ok.mp shaped
  rw [Value.field] at held
  cases found : Entries.get? entries "shapes" with
  | none =>
    rw [found] at held
    exact absurd (Value.map.inj held).symm filled
  | some shapes =>
    rw [found] at held
    cases shapes with
    | map listed =>
      simp only [onlyService, entriesOf, Outcome.ok_bind, found] at only
      obtain rfl : listed = graph := by
        cases listed with
        | nil => exact absurd (Value.map.inj held).symm filled
        | cons entry listed => exact Value.map.inj held
      obtain ⟨texts, read, only⟩ := Outcome.bind_eq_ok.mp only
      refine ⟨texts, read, ?_⟩
      split at only
      · rename_i sorted
        rw [sorted, Outcome.pure_eq_ok.mp only]
      · cases only
      · cases only
    | _ =>
      simp only [onlyService, entriesOf, Outcome.ok_bind, found] at only
      cases only

theorem onlyService_unique {v : Value} (only : onlyService model = .ok id)
    (shaped : shapesOf model = .ok (.map graph)) (found : graph.get? other = some v)
    (service : isService v) : other = id := by
  have filled : graph ≠ [] := by
    rintro rfl
    cases found
  obtain ⟨texts, read, sorted⟩ := onlyService_eq_ok only shaped filled
  have among : (Key.str other, v) ∈ graph.filter fun (_, shape) => isService shape :=
    List.mem_filter.mpr ⟨Entries.mem_of_get? found, service⟩
  have key : Key.str other ∈ texts.map Key.str :=
    keys_of_keyTexts read ▸ List.mem_map_of_mem among
  obtain ⟨text, member, same⟩ := List.mem_map.mp key
  obtain rfl : text = other := Scalar.str.inj (Key.atom.inj same)
  have alone := (sortTexts_perm texts).mem_iff.mpr member
  rw [sorted] at alone
  exact List.mem_singleton.mp alone

end Only

section Models

variable {model grown : Value} {id : String} {more : List Value} {s : Service}

/-- What is read of a service that grows is what was read, with one operation for each entry that
was added. -/
theorem Grows.extracted (grows : Grows model grown id more) {t : Service}
    (read : extract model id = .ok s) (also : extract grown id = .ok t) :
    ∃ rest, rest.length = more.length ∧ t = { s with operations := s.operations ++ rest } := by
  obtain ⟨g₁, g₂, s₁, s₂, items, shaped, shapedGrown, growth⟩ := grows
  obtain ⟨_, shape₁, shaped', reads⟩ := extract_eq_ok.mp read
  obtain ⟨_, shape₂, shapedGrown', alsoReads⟩ := extract_eq_ok.mp also
  obtain rfl := Value.map.inj (Except.ok.inj (shaped.symm.trans shaped'))
  obtain rfl := Value.map.inj (Except.ok.inj (shapedGrown.symm.trans shapedGrown'))
  obtain rfl := Value.map.inj (Option.some.inj (growth.found.symm.trans reads.found))
  obtain rfl := Value.map.inj (Option.some.inj (growth.grown.symm.trans alsoReads.found))
  exact growth.reads reads alsoReads

theorem Grows.only (grows : Grows model grown id more) (read : extract model id = .ok s)
    {other : String} (only : onlyService grown = .ok other) : other = id := by
  obtain ⟨g₁, g₂, s₁, s₂, items, shaped, shapedGrown, growth⟩ := grows
  obtain ⟨_, shape, shaped', reads⟩ := extract_eq_ok.mp read
  obtain rfl := Value.map.inj (Except.ok.inj (shaped.symm.trans shaped'))
  obtain rfl := Value.map.inj (Option.some.inj (growth.found.symm.trans reads.found))
  have kind : Value.field s₂ "type" = .str "service" :=
    (growth.same "type" (by decide)).symm.trans reads.kind
  have service : isService (.map s₂) := by
    rw [isService, kind]
    decide
  exact (onlyService_unique only shapedGrown growth.grown service).symm

end Models

end ServiceCli.Service
