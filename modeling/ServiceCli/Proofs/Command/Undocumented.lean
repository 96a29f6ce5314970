import ServiceCli.Proofs.Command.Plan
import ServiceCli.Proofs.Service.Undocumented

set_option autoImplicit false
set_option relaxedAutoImplicit false

namespace ServiceCli.Shape

mutual
theorem containsSpecial_undocumented :
    ∀ type : TypeTree, type.undocumented.containsSpecial = type.containsSpecial
  | .structure members => anySpecial_undocumentedFields members
  | .list member => containsSpecial_undocumented member
  | .map ⟨_, _, _, _, _⟩ ⟨_, value, _, _, _⟩ => containsSpecial_undocumented value
  | .primitive _ => rfl
  | .blob _ => rfl
  | .document => rfl
theorem anySpecial_undocumentedFields :
    ∀ fields : List Field, TypeTree.anySpecial (undocumentedFields fields)
      = TypeTree.anySpecial fields
  | [] => rfl
  | ⟨_, type, _, _, _⟩ :: rest => by
    rw [undocumentedFields, TypeTree.anySpecial, TypeTree.anySpecial,
      containsSpecial_undocumented type, anySpecial_undocumentedFields rest]
end

mutual
theorem containsStream_undocumented :
    ∀ type : TypeTree, type.undocumented.containsStream = type.containsStream
  | .structure members => anyStream_undocumentedFields members
  | .list member => containsStream_undocumented member
  | .map ⟨_, _, _, _, _⟩ ⟨_, value, _, _, _⟩ => containsStream_undocumented value
  | .primitive _ => rfl
  | .blob _ => rfl
  | .document => rfl
theorem anyStream_undocumentedFields :
    ∀ fields : List Field, TypeTree.anyStream (undocumentedFields fields)
      = TypeTree.anyStream fields
  | [] => rfl
  | ⟨_, type, _, _, _⟩ :: rest => by
    rw [undocumentedFields, TypeTree.anyStream, TypeTree.anyStream,
      containsStream_undocumented type, anyStream_undocumentedFields rest]
end

end ServiceCli.Shape

namespace ServiceCli.Conversion

open ServiceCli.Path ServiceCli.Shape

mutual
theorem ofType_undocumented (target : AccessPath) (probe : Probe) :
    ∀ type : TypeTree, ofType target probe type.undocumented = ofType target probe type
  | .structure members => by
    rw [TypeTree.undocumented, ofType, ofType, ofFields_undocumentedFields target members]
  | .list member => by
    rw [TypeTree.undocumented, ofType, ofType, ofType_undocumented target.element _ member]
  | .map ⟨_, _, _, _, _⟩ ⟨_, value, _, _, _⟩ => by
    rw [TypeTree.undocumented, ofType, ofType, ofType_undocumented target.mapValue _ value]
  | .primitive _ => rfl
  | .blob _ => rfl
  | .document => rfl
theorem ofFields_undocumentedFields (root : AccessPath) :
    ∀ fields : List Field, ofFields root (undocumentedFields fields) = ofFields root fields
  | [] => rfl
  | ⟨name, type, _, _, _⟩ :: rest => by
    rw [undocumentedFields, ofFields, ofFields, containsSpecial_undocumented type,
      ofType_undocumented (root.key name) _ type, ofFields_undocumentedFields root rest]
end

end ServiceCli.Conversion

namespace ServiceCli.Command

open ServiceCli.Conversion ServiceCli.Path ServiceCli.Service ServiceCli.Shape

mutual
theorem requiredWithin_undocumented (path : FieldPath) :
    ∀ type : TypeTree, requiredWithin path type.undocumented = requiredWithin path type
  | .structure members => requiredAmong_undocumentedFields path members
  | .list member => requiredWithin_undocumented path.element member
  | .map ⟨_, _, _, _, _⟩ ⟨_, value, _, _, _⟩ => requiredWithin_undocumented path.value value
  | .primitive _ => rfl
  | .blob _ => rfl
  | .document => rfl
theorem requiredAmong_undocumentedFields (path : FieldPath) :
    ∀ fields : List Field, requiredAmong path (undocumentedFields fields)
      = requiredAmong path fields
  | [] => rfl
  | ⟨name, type, _, _, _⟩ :: rest => by
    rw [undocumentedFields, requiredAmong, requiredAmong,
      requiredWithin_undocumented (path.member name) type,
      requiredAmong_undocumentedFields path rest]
end

def Flag.undescribed (f : Flag) : Flag := { f with description := "" }

theorem readingOf_undocumented (type : TypeTree) :
    readingOf type.undocumented = readingOf type := by
  cases type with
  | map key value =>
    rw [undocumented_map]
    rfl
  | _ => rfl

theorem isRepeatable_undocumented (type : TypeTree) :
    isRepeatable type.undocumented = isRepeatable type := by
  cases type with
  | list member =>
    cases member with
    | map key value =>
      rw [TypeTree.undocumented, undocumented_map]
      rfl
    | _ => rfl
  | map key value =>
    rw [undocumented_map]
    rfl
  | _ => rfl

theorem flagReading_undocumented (type : TypeTree) :
    flagReading type.undocumented = flagReading type := by
  cases type with
  | list member =>
    have repeatable := isRepeatable_undocumented (.list member)
    rw [TypeTree.undocumented] at repeatable
    rw [TypeTree.undocumented, flagReading, flagReading, repeatable,
      readingOf_undocumented member]
    rfl
  | map key value =>
    rw [undocumented_map]
    rfl
  | _ => rfl

theorem placeholderOf_undocumented (f : Field) :
    placeholderOf f.undocumented = placeholderOf f := by
  obtain ⟨name, type, _, _, _⟩ := f
  cases type with
  | map key value =>
    rw [Field.undocumented, undocumented_map]
    rfl
  | _ => rfl

theorem flagOf_undocumented (parameter : String) (f : Field) :
    (flagOf parameter f.undocumented).undescribed = (flagOf parameter f).undescribed := by
  have reading : flagReading f.undocumented.type = flagReading f.type :=
    flagReading_undocumented f.type
  have repeatable : isRepeatable f.undocumented.type = isRepeatable f.type :=
    isRepeatable_undocumented f.type
  rw [flagOf, flagOf, placeholderOf_undocumented, reading, repeatable]
  rfl

theorem flagsFrom_undocumented (used : List String) (fields : List Field) :
    (flagsFrom used (undocumentedFields fields)).map Flag.undescribed
      = (flagsFrom used fields).map Flag.undescribed := by
  rw [undocumentedFields_eq]
  induction fields generalizing used with
  | nil => rfl
  | cons f fields ih =>
    rw [List.map_cons, flagsFrom, flagsFrom, List.map_cons, List.map_cons, flagOf_undocumented]
    exact congrArg _ (ih _)

theorem flagsOf_undocumented (fields : List Field) (needsToken : Bool) :
    (flagsOf (undocumentedFields fields) needsToken).map Flag.undescribed
      = (flagsOf fields needsToken).map Flag.undescribed := by
  rw [flagsOf, flagsOf, List.map_append, List.map_append, flagsFrom_undocumented]

/-- What the code of a command is made of: a plan without its texts. -/
def Plan.undocumented (plan : Plan) : Plan :=
  { plan with
    operation := plan.operation.undocumented
    flags := plan.flags.map Flag.undescribed
    outline := []
    usageExample := []
    mixedExample := ""
    fileExample := "" }

theorem inputFields_undocumented (op : Operation) :
    op.undocumented.inputFields = undocumentedFields op.inputFields := by
  obtain ⟨_, _, _, _, _, input, _, _⟩ := op
  cases input <;> rfl

variable {op first second : Operation} {cli : String} {needsToken : Bool} {plan other : Plan}

/-- What the code of a command is made of is planned from the operation without documentation. -/
theorem planOf_undocumented (planned : planOf op cli needsToken = .ok plan) :
    plan.undocumented = {
      operation := op.undocumented
      needsToken := needsToken
      flags := (flagsOf op.undocumented.inputFields needsToken).map Flag.undescribed
      required := requiredTexts op.undocumented.inputFields needsToken
      outline := []
      usageExample := []
      mixedExample := ""
      fileExample := ""
      conversions := ofFields parameterRoot op.undocumented.inputFields
      closesStreams := TypeTree.anyStream op.undocumented.inputFields } := by
  obtain ⟨-, rfl⟩ := planOf_eq_ok.mp planned
  have required : requiredTexts (undocumentedFields op.inputFields) needsToken
      = requiredTexts op.inputFields needsToken := by
    rw [requiredTexts, requiredPaths, requiredAmong_undocumentedFields]
    rfl
  rw [inputFields_undocumented, flagsOf_undocumented, ofFields_undocumentedFields,
    anyStream_undocumentedFields, required]
  rfl

end ServiceCli.Command
