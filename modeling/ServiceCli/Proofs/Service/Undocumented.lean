import ServiceCli.Proofs.Shape.Undocumented
import ServiceCli.Service.Extract

set_option autoImplicit false
set_option relaxedAutoImplicit false

namespace ServiceCli.Service

open ServiceCli.Data ServiceCli.Shape

/-- The structure that an operation takes or gives, without documentation. -/
def Payload.undocumented (p : Payload) : Payload :=
  { p with members := undocumentedFields p.members }

/-- An operation without documentation, its own and that of the members it takes and gives. -/
def Operation.undocumented (op : Operation) : Operation :=
  { op with
    documentation := ""
    traits := op.traits.erase documentationTrait
    input := op.input.map Payload.undocumented
    output := op.output.map Payload.undocumented }

/-- A service without documentation, its own and that of its operations. -/
def undocumentedService (s : Service) : Service :=
  { s with documentation := "", operations := s.operations.map Operation.undocumented }

/-- A part of a model, where the shapes have no documentation. -/
def undocumentedPart (key : Key) (part : Value) : Value :=
  if key = .str "shapes" then revised (fun _ => undocumentedValue) part else part

/-- A model without documentation: no shape in it has any, and no member of a shape. -/
def undocumentedModel : Value → Value := revised undocumentedPart

/-- An operation is what its shape says. -/
structure Extracts (graph : Graph) (ref : Ref) (shape traits : Entries) (op : Operation) :
    Prop where
  named : op.name = ref.name
  found : graph.get? ref.id = some (.map shape)
  filled : traitsOf shape = .map traits
  routed : ∃ http uri, routeOf (Value.field traits httpTrait) = some (http, uri) ∧
    textOf uri = .ok op.route ∧
    op.method = Text.upper (Literal.text ((Value.field http "method").orElse (.str "POST")))
  told : textOf ((Value.field traits documentationTrait).orElse (.str "")) = .ok op.documentation
  marked : op.traits = traits
  texts : hasTextKeys traits = true
  taken : ∃ ref, payloadRef shape "input" = .ok ref ∧ payloadOf graph ref = .ok op.input
  given : ∃ ref, payloadRef shape "output" = .ok ref ∧ payloadOf graph ref = .ok op.output
  exempt : isExempt (.map traits) = .ok op.authExempt

section Operation

variable {graph : Graph} {ref : Ref} {op : Operation} {shape : Entries}

theorem extractOperation_eq_ok : extractOperation graph ref = .ok op ↔
    ∃ shape traits, Extracts graph ref shape traits op := by
  constructor
  · intro told
    rw [extractOperation] at told
    split at told
    case h_2 => exact nomatch told
    rename_i shape found
    obtain ⟨http, route, told⟩ := Outcome.bind_eq_ok.mp told
    obtain ⟨traits, filled, rfl⟩ := fieldOf_eq_ok.mp route
    split at told
    case h_2 => exact nomatch told
    rename_i http uri routed
    simp only [filled, Outcome.bind_eq_ok, documentationOf_eq_ok, entriesOf_eq_ok,
      Value.map.injEq] at told
    obtain ⟨inputRef, toInput, outputRef, toOutput, _, ⟨_, rfl, rfl⟩, _, rfl, input, taken,
      output, given, authExempt, exempt, route, located, documentation, read, told⟩ := told
    split at told
    case isTrue => exact nomatch told
    rename_i texts
    cases Outcome.pure_eq_ok.mp told
    exact ⟨shape, traits, rfl, found, filled, ⟨http, uri, routed, located, rfl⟩, read, rfl,
      by simpa using texts, ⟨inputRef, toInput, taken⟩, ⟨outputRef, toOutput, given⟩, exempt⟩
  · rintro ⟨shape, traits, named, found, filled, ⟨http, uri, routed, located, method⟩, read, marked,
      texts, ⟨inputRef, toInput, taken⟩, ⟨outputRef, toOutput, given⟩, exempt⟩
    have route : fieldOf (.map traits) httpTrait = .ok (Value.field traits httpTrait) := rfl
    have documentation : documentationOf (.map traits)
        = .ok ((Value.field traits documentationTrait).orElse (.str "")) := rfl
    have entries : entriesOf (.map traits) = .ok traits := rfl
    cases op
    simp only at named located method read marked taken given exempt
    subst named method marked
    simp [extractOperation, found, filled, route, routed, toInput, toOutput, documentation, entries,
      taken, given, exempt, located, read, texts]

theorem payloadRef_undocumentedShape {part : String} (either : part = "input" ∨ part = "output") :
    payloadRef (undocumentedShape shape) part = payloadRef shape part := by
  have kept : Value.field (undocumentedShape shape) part = Value.field shape part := by
    rcases either with rfl | rfl
    · exact field_undocumentedShape_of_other (by decide) (by decide) (by decide)
    · exact field_undocumentedShape_of_other (by decide) (by decide) (by decide)
  rw [payloadRef, kept, payloadRef]

theorem payloadOf_undocumented {ref : Option Ref} {payload : Option Payload}
    (read : payloadOf graph ref = .ok payload) :
    payloadOf graph.undocumented ref = .ok (payload.map Payload.undocumented) := by
  cases ref with
  | none =>
    cases Except.ok.inj read
    rfl
  | some ref =>
    obtain ⟨members, resolved, made⟩ := Outcome.bind_eq_ok.mp read
    cases Outcome.pure_eq_ok.mp made
    exact Outcome.bind_eq_ok.mpr ⟨_, resolveStructure_undocumented resolved, rfl⟩

theorem Extracts.undocumented {traits : Entries} (extracts : Extracts graph ref shape traits op) :
    Extracts graph.undocumented ref (undocumentedShape shape) (traits.erase documentationTrait)
      op.undocumented := by
  have payload {part : String} {payload : Option Payload}
      (either : part = "input" ∨ part = "output")
      (taken : ∃ ref, payloadRef shape part = .ok ref ∧ payloadOf graph ref = .ok payload) :
      ∃ ref, payloadRef (undocumentedShape shape) part = .ok ref ∧
        payloadOf graph.undocumented ref = .ok (payload.map Payload.undocumented) := by
    obtain ⟨ref, refers, read⟩ := taken
    exact ⟨ref, (payloadRef_undocumentedShape either).trans refers, payloadOf_undocumented read⟩
  refine ⟨extracts.named, ?found, ?filled, ?routed, ?told, ?marked, ?texts,
    payload (.inl rfl) extracts.taken, payload (.inr rfl) extracts.given, ?exempt⟩
  case found =>
    rw [Graph.undocumented, Entries.get?_revise, extracts.found]
    rfl
  case filled => rw [traitsOf_undocumentedShape, untoldTraits, extracts.filled]
  case routed =>
    rw [Entries.field_erase_of_ne (by decide)]
    exact extracts.routed
  case told =>
    rw [Value.field, Entries.get?_erase_same]
    rfl
  case marked => rw [Operation.undocumented, extracts.marked]
  case texts =>
    have texts := List.all_eq_true.mp extracts.texts
    exact List.all_eq_true.mpr fun entry member => texts entry (List.mem_of_mem_filter member)
  case exempt =>
    have scheme : fieldOf (.map (traits.erase documentationTrait)) authTrait
        = fieldOf (.map traits) authTrait :=
      congrArg Except.ok (Entries.field_erase_of_ne (by decide) traits)
    rw [isExempt, scheme]
    exact extracts.exempt

theorem extractOperation_undocumented (extracted : extractOperation graph ref = .ok op) :
    extractOperation graph.undocumented ref = .ok op.undocumented := by
  obtain ⟨shape, traits, extracts⟩ := extractOperation_eq_ok.mp extracted
  exact extractOperation_eq_ok.mpr ⟨_, _, extracts.undocumented⟩

theorem extractOperations_undocumented {id : String} {listed : List Value} {ops : List Operation}
    (extracted : extractOperations graph id listed = .ok ops) :
    extractOperations graph.undocumented id listed = .ok (ops.map Operation.undocumented) := by
  induction listed generalizing ops with
  | nil =>
    cases Except.ok.inj extracted
    rfl
  | cons entry listed ih =>
    rw [extractOperations] at extracted ⊢
    split at extracted
    case isTrue => exact nomatch extracted
    rename_i targeted
    obtain ⟨ref, refers, extracted⟩ := Outcome.bind_eq_ok.mp extracted
    obtain ⟨op, own, extracted⟩ := Outcome.bind_eq_ok.mp extracted
    obtain ⟨others, rest, extracted⟩ := Outcome.bind_eq_ok.mp extracted
    cases Outcome.pure_eq_ok.mp extracted
    rw [if_neg targeted]
    exact Outcome.bind_eq_ok.mpr ⟨ref, refers, Outcome.bind_eq_ok.mpr
      ⟨_, extractOperation_undocumented own, Outcome.bind_eq_ok.mpr ⟨_, ih rest, rfl⟩⟩⟩

end Operation

section Service

variable {model shape : Entries} {graph : Graph} {id : String} {s : Service}

/-- What a service is read from. -/
structure Reads (graph : Graph) (id : String) (shape : Entries) (s : Service) : Prop where
  refers : Ref.parse? id = some s.ref
  found : graph.get? id = some (.map shape)
  kind : Value.field shape "type" = .str "service"
  asks : mentions bearerTrait (traitsOf shape) = .ok s.requiresAuth
  operations : ∃ listed,
    listedOperations ((Value.field shape "operations").orElse (.list [])) = .ok listed ∧
    extractOperations graph id listed = .ok s.operations
  told : ∃ traits, traitsOf shape = .map traits ∧
    textOf ((Value.field traits documentationTrait).orElse (.str "")) = .ok s.documentation
  versioned : textOf? (Value.field shape "version") = .ok s.version

theorem extract_eq_ok {model : Value} : extract model id = .ok s ↔
    ∃ graph shape, shapesOf model = .ok (.map graph) ∧ Reads graph id shape s := by
  simp only [extract, Outcome.bind_eq_ok, listingOf, entriesOf_eq_ok, refOf_eq_ok]
  constructor
  · rintro ⟨l, ⟨shapes, shaped, ref, refers, graph, rfl, told⟩, described⟩
    split at told
    case h_2 => exact nomatch told
    rename_i shape found
    split at told
    case isTrue => exact nomatch told
    rename_i kind
    obtain ⟨asked, asks, told⟩ := Outcome.bind_eq_ok.mp told
    obtain ⟨listed, lists, told⟩ := Outcome.bind_eq_ok.mp told
    obtain ⟨operations, extracted, told⟩ := Outcome.bind_eq_ok.mp told
    cases Outcome.pure_eq_ok.mp told
    simp only [Listing.service, Outcome.bind_eq_ok, documentationOf_eq_ok] at described
    obtain ⟨_, ⟨traits, filled, rfl⟩, version, versioned, documentation, read, described⟩ :=
      described
    cases Outcome.pure_eq_ok.mp described
    obtain ⟨_, ⟨⟩, refers⟩ := refers
    exact ⟨graph, shape, shaped, refers, found, by simpa using kind, asks,
      ⟨listed, lists, extracted⟩, ⟨traits, filled, read⟩, versioned⟩
  · rintro ⟨graph, shape, shaped, reads⟩
    obtain ⟨listed, lists, extracted⟩ := reads.operations
    obtain ⟨traits, filled, read⟩ := reads.told
    have asks : asksForBearer (.map shape) = .ok s.requiresAuth := reads.asks
    have documentation : documentationOf (traitsOf shape)
        = .ok ((Value.field traits documentationTrait).orElse (.str "")) := by
      rw [filled]
      rfl
    refine ⟨⟨s.ref, shape, s.requiresAuth, s.operations⟩,
      ⟨_, shaped, s.ref, ⟨id, rfl, reads.refers⟩, graph, rfl, ?_⟩, ?_⟩
    · simp [reads.found, reads.kind, asks, lists, extracted, pure, Except.pure]
    · simp [Listing.service, documentation, reads.versioned, read, pure, Except.pure]

theorem Reads.undocumented (reads : Reads graph id shape s) :
    Reads graph.undocumented id (undocumentedShape shape) (undocumentedService s) := by
  have kept {name : String} (differ : name ≠ "traits" ∧ name ≠ "members")
      (parts : name ≠ "member" ∧ name ≠ "key" ∧ name ≠ "value") :
      Value.field (undocumentedShape shape) name = Value.field shape name :=
    field_undocumentedShape_of_other differ.1 differ.2 parts
  refine ⟨reads.refers, ?found, ?kind, ?asks, ?operations, ?told, ?versioned⟩
  case found =>
    rw [Graph.undocumented, Entries.get?_revise, reads.found]
    rfl
  case kind => exact field_undocumentedShape_type.trans reads.kind
  case asks =>
    rw [traitsOf_undocumentedShape, mentions_untoldTraits (by decide)]
    exact reads.asks
  case operations =>
    obtain ⟨listed, lists, extracted⟩ := reads.operations
    rw [kept (by decide) (by decide)]
    exact ⟨listed, lists, extractOperations_undocumented extracted⟩
  case told =>
    obtain ⟨traits, filled, -⟩ := reads.told
    refine ⟨Entries.erase traits documentationTrait, ?_, ?_⟩
    · rw [traitsOf_undocumentedShape, untoldTraits, filled]
    · rw [Value.field, Entries.get?_erase_same]
      rfl
  case versioned =>
    rw [kept (by decide) (by decide)]
    exact reads.versioned

theorem shapesOf_undocumentedModel {model : Value} (shaped : shapesOf model = .ok (.map graph)) :
    shapesOf (undocumentedModel model) = .ok (.map graph.undocumented) := by
  obtain ⟨shapes, found, filled⟩ := Outcome.bind_eq_ok.mp shaped
  obtain ⟨entries, rfl, rfl⟩ := fieldOf_eq_ok.mp found
  refine Outcome.bind_eq_ok.mpr ⟨_, fieldOf_eq_ok.mpr ⟨_, rfl, rfl⟩, ?_⟩
  rw [Entries.field_revise rfl, undocumentedPart, if_pos rfl, orEmpty_revised,
    Outcome.pure_eq_ok.mp filled]
  rfl

/-- What is read out of a model without documentation is the service without documentation. -/
theorem extract_undocumented {model : Value} (read : extract model id = .ok s) :
    extract (undocumentedModel model) id = .ok (undocumentedService s) := by
  obtain ⟨graph, shape, shaped, reads⟩ := extract_eq_ok.mp read
  exact extract_eq_ok.mpr ⟨_, _, shapesOf_undocumentedModel shaped, reads.undocumented⟩

theorem isService_undocumentedValue (v : Value) :
    isService (undocumentedValue v) = isService v := by
  cases v with
  | map shape => rw [undocumentedValue, isService, field_undocumentedShape_type, isService]
  | _ => rfl

private theorem serviceKeys_undocumented (shapes : Entries) :
    ((shapes.revise fun _ => undocumentedValue).filter fun (_, shape) => isService shape).map
        Prod.fst
      = (shapes.filter fun (_, shape) => isService shape).map Prod.fst := by
  rw [Entries.revise, List.filter_map, List.map_map]
  simp only [Function.comp_def, isService_undocumentedValue]

theorem onlyService_undocumentedModel (model : Value) :
    onlyService (undocumentedModel model) = onlyService model := by
  cases model with
  | map entries =>
    have found : Entries.get? (Entries.revise undocumentedPart entries) "shapes"
        = (Entries.get? entries "shapes").map (revised fun _ => undocumentedValue) := by
      rw [Entries.get?_revise]
      rfl
    simp only [undocumentedModel, revised, onlyService, entriesOf, Outcome.ok_bind, found]
    cases Entries.get? entries "shapes" with
    | none => rfl
    | some shapes =>
      cases shapes with
      | map shapes =>
        simp only [Option.map_some, revised, Outcome.ok_bind, serviceKeys_undocumented]
      | _ => rfl
  | _ => rfl

end Service

end ServiceCli.Service
