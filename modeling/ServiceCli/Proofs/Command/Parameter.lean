import ServiceCli.Proofs.Command.Identifier

set_option autoImplicit false
set_option relaxedAutoImplicit false

namespace ServiceCli.Command

open ServiceCli.Shape

section Members

variable (used : List String) (fields : List Field)

theorem flagsFrom_length : (flagsFrom used fields).length = fields.length := by
  induction fields generalizing used with
  | nil => rfl
  | cons f fields ih => rw [flagsFrom, List.length_cons, List.length_cons, ih]

theorem flagsFrom_fresh : ∀ flag ∈ flagsFrom used fields, flag.parameter ∉ used := by
  induction fields generalizing used with
  | nil => exact fun flag member => absurd member List.not_mem_nil
  | cons f fields ih =>
    rw [flagsFrom]
    refine List.forall_mem_cons.mpr ⟨freeName_not_mem used (identifier f.name), ?_⟩
    intro flag member again
    exact ih _ flag member (List.mem_cons_of_mem _ again)

theorem flagsFrom_nodup : ((flagsFrom used fields).map Flag.parameter).Nodup := by
  induction fields generalizing used with
  | nil => exact List.nodup_nil
  | cons f fields ih =>
    rw [flagsFrom, List.map_cons]
    refine List.nodup_cons.mpr ⟨fun again => ?_, ih _⟩
    obtain ⟨flag, member, same⟩ := List.mem_map.mp again
    exact flagsFrom_fresh _ fields flag member (same ▸ List.mem_cons_self)

variable {fields}

/-- The parameter of a member is found by the search that starts at its identifier, when all names
are used that were used before, the parameters of the members before it included. -/
theorem flagsFrom_renames {i : Nat} {f : Field} (member : fields[i]? = some f) :
    ∃ parameter, (flagsFrom used fields)[i]? = some (flagOf parameter f)
      ∧ Renames (used ++ ((flagsFrom used fields).take i).map Flag.parameter)
        (identifier f.name) parameter := by
  induction fields generalizing used i with
  | nil => exact nomatch member
  | cons g fields ih =>
    rw [flagsFrom]
    cases i with
    | zero =>
      obtain rfl := Option.some.inj member
      refine ⟨_, rfl, ?_⟩
      rw [List.take_zero, List.map_nil, List.append_nil]
      exact renames_freeName used _
    | succ i =>
      obtain ⟨parameter, flag, renames⟩ := ih (freeName used (identifier g.name) :: used) member
      refine ⟨parameter, flag, renames.congr fun s => ?_⟩
      rw [List.take_succ_cons, List.map_cons, List.mem_append, List.mem_append, List.mem_cons,
        List.mem_cons, or_assoc, or_left_comm]
      exact Iff.rfl

end Members

section Flags

variable {fields : List Field} {needsToken : Bool}

theorem parameter_cases {flag : Flag} (member : flag ∈ flagsOf fields needsToken) :
    (flag ∈ flagsFrom reservedNames fields
      ∧ ∃ name count, flag.parameter = underscored (identifier name) count) ∨ flag = tokenFlag := by
  rw [flagsOf, List.mem_append] at member
  rcases member with ofMember | ofToken
  · obtain ⟨i, place⟩ := List.mem_iff_getElem?.mp ofMember
    have within : i < fields.length := by
      rw [← flagsFrom_length reservedNames fields]
      exact (List.getElem?_eq_some_iff.mp place).1
    obtain ⟨parameter, same, renames⟩ :=
      flagsFrom_renames reservedNames (List.getElem?_eq_getElem within)
    obtain ⟨count, spelt⟩ := renames.eq_underscored
    obtain rfl := Option.some.inj (place.symm.trans same)
    exact .inl ⟨ofMember, _, count, spelt⟩
  · cases needsToken with
    | false => exact absurd ofToken (by simp)
    | true => exact .inr (List.mem_singleton.mp ofToken)

theorem parameters_nodup : ((flagsOf fields needsToken).map Flag.parameter).Nodup := by
  rw [flagsOf, List.map_append, List.nodup_append]
  refine ⟨flagsFrom_nodup reservedNames fields, by cases needsToken <;> simp, ?_⟩
  intro name ofMember other ofToken same
  obtain ⟨flag, member, rfl⟩ := List.mem_map.mp ofMember
  cases needsToken with
  | false => exact absurd ofToken (by simp)
  | true =>
    have reserved : tokenFlag.parameter ∈ reservedNames := by decide +kernel
    obtain rfl : other = tokenFlag.parameter := by simpa using ofToken
    exact flagsFrom_fresh reservedNames fields flag member (same ▸ reserved)

end Flags

/-- The search for each parameter ends. The parameters of all flags are names in small letters, no
keywords, and differ from each other and from the parameter of the file; those of the members are
names of neither the language nor the function's body, the one it makes its client by included. -/
theorem parameters_valid (fields : List Field) (needsToken : Bool) :
    (∀ i f, fields[i]? = some f →
        ∃ parameter, (flagsOf fields needsToken)[i]? = some (flagOf parameter f)
          ∧ Renames (reservedNames ++ ((flagsOf fields needsToken).take i).map Flag.parameter)
            (identifier f.name) parameter)
      ∧ (flagsOf fields needsToken).drop fields.length = (if needsToken then [tokenFlag] else [])
      ∧ ("params_file" :: (flagsOf fields needsToken).map Flag.parameter).Nodup
      ∧ (∀ flag ∈ flagsOf fields needsToken,
        isLowerName flag.parameter.toList = true ∧ flag.parameter ∉ keywords)
      ∧ ∀ flag ∈ (flagsOf fields needsToken).take fields.length,
        flag.parameter ∉ reservedNames ∧ flag.parameter ≠ "_get_client" := by
  have length := flagsFrom_length reservedNames fields
  refine ⟨?search, ?last, ?apart, ?named, ?hidden⟩
  case search =>
    intro i f member
    have within : i < (flagsFrom reservedNames fields).length :=
      length ▸ (List.getElem?_eq_some_iff.mp member).1
    obtain ⟨parameter, flag, renames⟩ := flagsFrom_renames reservedNames member
    refine ⟨parameter, ?_, ?_⟩
    · rwa [flagsOf, List.getElem?_append_left within]
    · rwa [flagsOf, List.take_append_of_le_length (Nat.le_of_lt within)]
  case last => rw [flagsOf, ← length, List.drop_left]
  case apart =>
    refine List.nodup_cons.mpr ⟨fun again => ?_, parameters_nodup⟩
    obtain ⟨flag, member, same⟩ := List.mem_map.mp again
    rcases parameter_cases member with ⟨ofMember, -⟩ | rfl
    · refine flagsFrom_fresh reservedNames fields flag ofMember ?_
      rw [same]
      decide +kernel
    · exact absurd same (by decide)
  case named =>
    intro flag member
    rcases parameter_cases member with ⟨-, name, count, spelt⟩ | rfl
    · rw [spelt]
      exact (underscored_identifier_form name count).2
    · decide
  case hidden =>
    intro flag member
    rw [flagsOf, ← length, List.take_left] at member
    refine ⟨flagsFrom_fresh reservedNames fields flag member, fun same => ?_⟩
    have ofMember : flag ∈ flagsOf fields false := List.mem_append_left _ member
    rcases parameter_cases ofMember with ⟨-, name, count, spelt⟩ | rfl
    · -- an underscore in front stands before a digit only
      have begins := (underscored_identifier_form name count).1
      rw [← spelt, same] at begins
      exact absurd begins (by decide)
    · exact absurd same (by decide)

private def lodgeFields : List Field :=
  ["client", "Client", "client_", "class", "9Lives", "auth-token", "", "Größe"].map fun name =>
    ⟨name, .primitive "string", false, "", false⟩

/-- Three names make the identifier of a variable that the function uses, and get one underscore,
two and three. -/
theorem parameters_valid_lodge :
    (flagsOf lodgeFields true).map Flag.parameter = ["client_", "client__", "client___", "class_",
        "_9_lives", "auth_token_", "param", "gr_e", "auth_token"]
      ∧ lodgeFields[2]? = some ⟨"client_", .primitive "string", false, "", false⟩
      ∧ Renames (reservedNames ++ ["client_", "client__"]) "client" "client___"
      ∧ ("params_file" :: (flagsOf lodgeFields true).map Flag.parameter).Nodup
      ∧ ∀ flag ∈ flagsOf lodgeFields true,
        isLowerName flag.parameter.toList = true ∧ flag.parameter ∉ keywords := by
  have third : lodgeFields[2]? = some ⟨"client_", .primitive "string", false, "", false⟩ := rfl
  have parameters : (flagsOf lodgeFields true).map Flag.parameter = ["client_", "client__",
      "client___", "class_", "_9_lives", "auth_token_", "param", "gr_e", "auth_token"] := by
    decide +kernel
  obtain ⟨search, -, apart, named, -⟩ := parameters_valid lodgeFields true
  obtain ⟨parameter, flag, renames⟩ := search 2 _ third
  have chosen : "client___" = parameter := by
    have same := congrArg (Option.map Flag.parameter) flag
    rw [← List.getElem?_map, parameters] at same
    exact Option.some.inj same
  have before :
      ((flagsOf lodgeFields true).take 2).map Flag.parameter = ["client_", "client__"] := by
    rw [List.map_take, parameters]
    rfl
  have start : identifier "client_" = "client" := by decide +kernel
  rw [before, start, ← chosen] at renames
  exact ⟨parameters, third, renames, apart, named⟩

end ServiceCli.Command
