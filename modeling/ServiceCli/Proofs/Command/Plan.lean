import ServiceCli.Command.Plan

set_option autoImplicit false
set_option relaxedAutoImplicit false

namespace ServiceCli.Command

open ServiceCli.Conversion ServiceCli.Service ServiceCli.Shape

variable {op : Operation} {cli : String} {needsToken : Bool} {plan : Plan} {fields : List Field}

theorem planOf_eq_error : (∃ e, planOf op cli needsToken = .error e) ↔
    (needsToken && hasTokenMember op.inputFields) = true := by
  rw [planOf]
  split <;> rename_i collides <;> simp [refuse, collides]

theorem planOf_eq_ok : planOf op cli needsToken = .ok plan ↔
    (needsToken && hasTokenMember op.inputFields) = false ∧ plan = {
      operation := op
      needsToken := needsToken
      flags := flagsOf op.inputFields needsToken
      required := requiredTexts op.inputFields needsToken
      outline := outlineOf op.inputFields needsToken 4
      usageExample := usageExample cli op.name op.inputFields needsToken
      mixedExample := mixedExample cli op.name op.inputFields needsToken
      fileExample := fileExample op.inputFields needsToken
      conversions := ofFields parameterRoot op.inputFields
      closesStreams := TypeTree.anyStream op.inputFields } := by
  rw [planOf]
  split <;> rename_i collides
  · simp [refuse, collides]
  · rw [Except.ok.injEq, eq_comm]
    simp [collides]

theorem hasTokenMember_eq_true :
    hasTokenMember fields = true ↔ tokenName ∈ fields.map Field.name := by
  simp [hasTokenMember]

theorem flagsFrom_names (used : List String) (fields : List Field) :
    (flagsFrom used fields).map Flag.name = fields.map Field.name := by
  induction fields generalizing used with
  | nil => rfl
  | cons f fields ih =>
    rw [flagsFrom, List.map_cons, List.map_cons, ih]
    rfl

theorem flagsOf_names (fields : List Field) (needsToken : Bool) :
    (flagsOf fields needsToken).map Flag.name
      = fields.map Field.name ++ if needsToken then [tokenName] else [] := by
  rw [flagsOf, List.map_append, flagsFrom_names]
  cases needsToken <;> rfl

theorem exists_flagOf {f : Field} (member : f ∈ fields) (used : List String) :
    ∃ parameter, flagOf parameter f ∈ flagsFrom used fields := by
  induction fields generalizing used with
  | nil => exact absurd member (by simp)
  | cons g fields ih =>
    rw [flagsFrom]
    rcases List.mem_cons.mp member with rfl | member
    · exact ⟨_, List.mem_cons_self⟩
    · obtain ⟨parameter, made⟩ := ih member (freeName used (identifier g.name) :: used)
      exact ⟨parameter, List.mem_cons_of_mem _ made⟩

theorem flagsOf_nodup (differ : (fields.map Field.name).Nodup)
    (free : (needsToken && hasTokenMember fields) = false) :
    ((flagsOf fields needsToken).map Flag.name).Nodup := by
  rw [flagsOf_names]
  cases needsToken with
  | false => simpa using differ
  | true =>
    have absent : tokenName ∉ fields.map Field.name := by
      rw [← hasTokenMember_eq_true]
      simpa using free
    rw [if_pos rfl, List.nodup_append]
    refine ⟨differ, by simp, ?_⟩
    rintro name member other token rfl
    exact absent (List.mem_singleton.mp token ▸ member)

end ServiceCli.Command
