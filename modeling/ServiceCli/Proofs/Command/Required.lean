import ServiceCli.Command.Required
import ServiceCli.Proofs.Parameters.Violation

set_option autoImplicit false
set_option relaxedAutoImplicit false

namespace ServiceCli.Path.FieldPath

open ServiceCli.Parameters

theorem appendText_empty (segment : String) : appendText "" segment = segment := by
  simp [appendText]

theorem subset_appendText (t segment : String) :
    t.toList ⊆ (appendText t segment).toList := by
  intro c member
  rw [appendText]
  split
  · exact String.toList_append ▸ List.mem_append_left _ member
  · split
    · rename_i empty
      rw [String.isEmpty_iff.mp empty] at member
      exact absurd member (by simp)
    · rw [String.toList_append, String.toList_append]
      exact List.mem_append_left _ (List.mem_append_left _ member)

theorem exists_mark_appendText {t : String} (started : t ≠ "") (segment : String) :
    ∃ c ∈ (appendText t segment).toList, isMark c = true := by
  rw [appendText]
  split
  · rename_i loop
    rw [String.toList_append]
    rcases Bool.or_eq_true_iff.mp loop with isElement | isValue
    · refine ⟨'[', List.mem_append_right _ ?_, by decide⟩
      rw [of_decide_eq_true isElement]
      decide
    · refine ⟨'\x7b', List.mem_append_right _ ?_, by decide⟩
      rw [of_decide_eq_true isValue]
      decide
  · rw [if_neg (by simpa [String.isEmpty_iff] using started)]
    exact ⟨'.', by simp, by decide⟩

theorem exists_mark_text {s next : Segment} (started : s.text ≠ "") (rest : FieldPath) :
    ∃ c ∈ (text (s :: next :: rest)).toList, isMark c = true := by
  have kept : ∀ (rest : FieldPath) (t : String),
      t.toList ⊆ (rest.foldl (fun t s => appendText t s.text) t).toList := by
    intro rest
    induction rest with
    | nil => exact fun t _ member => member
    | cons s rest ih => exact fun t => List.Subset.trans (subset_appendText t s.text) (ih _)
  rw [text, List.foldl_cons, List.foldl_cons, appendText_empty]
  obtain ⟨c, member, mark⟩ := exists_mark_appendText started next.text
  exact ⟨c, kept rest _ member, mark⟩

section Steps

variable (p rest : FieldPath)

theorem member_append (name : String) : p.member name ++ rest = p ++ .member name :: rest :=
  List.append_assoc ..

theorem element_append : p.element ++ rest = p ++ .element :: rest := List.append_assoc ..

theorem value_append : p.value ++ rest = p ++ .value :: rest := List.append_assoc ..

end Steps

end ServiceCli.Path.FieldPath

namespace ServiceCli.Command

open ServiceCli.Path ServiceCli.Parameters ServiceCli.Shape

mutual
theorem requiredWithin_extends : ∀ (type : TypeTree) {path p : FieldPath},
    p ∈ requiredWithin path type → ∃ s rest, p = path ++ s :: rest
  | .structure members, path, p, member => by
    obtain ⟨f, -, rest, equal, -⟩ := requiredAmong_extends members member
    exact ⟨_, rest, equal⟩
  | .list item, path, p, member => by
    obtain ⟨s, rest, rfl⟩ := requiredWithin_extends item member
    exact ⟨.element, s :: rest, by simp [FieldPath.element]⟩
  | .map _ ⟨_, value, _, _, _⟩, path, p, member => by
    obtain ⟨s, rest, rfl⟩ := requiredWithin_extends value member
    exact ⟨.value, s :: rest, by simp [FieldPath.value]⟩
  | .primitive _, _, _, member => absurd member (by simp [requiredWithin])
  | .blob _, _, _, member => absurd member (by simp [requiredWithin])
  | .document, _, _, member => absurd member (by simp [requiredWithin])
theorem requiredAmong_extends : ∀ (fields : List Field) {path p : FieldPath},
    p ∈ requiredAmong path fields →
    ∃ f ∈ fields, ∃ rest, p = path ++ .member f.name :: rest ∧ (rest = [] → f.required = true)
  | [], _, _, member => absurd member (by simp [requiredAmong])
  | ⟨name, type, required, documentation, isPayload⟩ :: fields, path, p, member => by
    rw [requiredAmong, List.append_assoc, List.mem_append, List.mem_append] at member
    rcases member with here | within | later
    · cases required with
      | false => exact absurd here (by simp)
      | true =>
        rw [if_pos rfl, List.mem_singleton] at here
        exact ⟨_, List.mem_cons_self, [], here, fun _ => rfl⟩
    · obtain ⟨s, rest, rfl⟩ := requiredWithin_extends type within
      exact ⟨_, List.mem_cons_self, s :: rest, by simp [FieldPath.member], nofun⟩
    · obtain ⟨f, there, rest, equal, ends⟩ := requiredAmong_extends fields later
      exact ⟨f, List.mem_cons_of_mem _ there, rest, equal, ends⟩
end

theorem required_of_unmarked {fields : List Field} (named : ∀ f ∈ fields, f.name ≠ "")
    {name : String} (unmarked : ∀ c ∈ name.toList, isMark c = false)
    (told : name ∈ (requiredPaths fields).map FieldPath.text) :
    ∃ f ∈ fields, f.name = name ∧ f.required = true := by
  obtain ⟨p, member, rfl⟩ := List.mem_map.mp told
  obtain ⟨f, there, rest, rfl, ends⟩ := requiredAmong_extends fields member
  cases rest with
  | nil => exact ⟨f, there, (FieldPath.appendText_empty f.name).symm, ends rfl⟩
  | cons next rest =>
    obtain ⟨c, among, mark⟩ :=
      @FieldPath.exists_mark_text (.member f.name) next (named f there) rest
    exact absurd (unmarked c among) (by simp [mark])

/-- A path that is built from the empty one by steps, into members by plain names only. -/
inductive IsBuilt : FieldPath → Prop
  | empty : IsBuilt []
  | member {p : FieldPath} {name : String} : IsBuilt p → IsPlain name → IsBuilt (p.member name)
  | element {p : FieldPath} : IsBuilt p → IsBuilt p.element
  | value {p : FieldPath} : IsBuilt p → IsBuilt p.value

/-- A member that is reached within a type, with the path to it. The key of a map is not entered. -/
inductive Reached : TypeTree → FieldPath → Field → Prop
  | member {members : List Field} {f : Field} :
    f ∈ members → Reached (.structure members) [.member f.name] f
  | within {members : List Field} {f g : Field} {p : FieldPath} :
    f ∈ members → Reached f.type p g → Reached (.structure members) (.member f.name :: p) g
  | element {item : TypeTree} {f : Field} {p : FieldPath} :
    Reached item p f → Reached (.list item) (.element :: p) f
  | value {key value f : Field} {p : FieldPath} :
    Reached value.type p f → Reached (.map key value) (.value :: p) f

section Built

variable {p q : FieldPath}

theorem isPlainPath_append (first : IsPlainPath p) (second : IsPlainPath q) :
    IsPlainPath (p ++ q) := by
  intro name member
  rcases List.mem_append.mp member with earlier | later
  · exact first name earlier
  · exact second name later

theorem IsBuilt.isPlainPath (built : IsBuilt p) : IsPlainPath p := by
  have loop : ∀ s : Segment, (∀ name, s ≠ .member name) → IsPlainPath [s] := by
    intro s apart name member
    exact absurd (List.mem_singleton.mp member).symm (apart name)
  induction built with
  | empty => exact fun name member => absurd member List.not_mem_nil
  | @member p name _ plain ih =>
    refine isPlainPath_append ih fun other member => ?_
    rw [Segment.member.inj (List.mem_singleton.mp member)]
    exact plain
  | element _ ih => exact isPlainPath_append ih (loop _ nofun)
  | value _ ih => exact isPlainPath_append ih (loop _ nofun)

/-- A plain path is read back from its text, so no other plain path has that text. -/
theorem text_injective (plain : IsPlainPath p) (also : IsPlainPath q) (same : p.text = q.text) :
    p = q := by
  rw [← parsePath_text plain, same, parsePath_text also]

end Built

section Reached

theorem reached_cons {f g : Field} {rest : List Field} {p : FieldPath} :
    Reached (.structure (f :: rest)) p g ↔ (p = [.member f.name] ∧ g = f)
      ∨ (∃ q, p = .member f.name :: q ∧ Reached f.type q g) ∨ Reached (.structure rest) p g := by
  constructor
  · intro reached
    cases reached with
    | member member =>
      rcases List.mem_cons.mp member with rfl | later
      · exact .inl ⟨rfl, rfl⟩
      · exact .inr (.inr (.member later))
    | within member inner =>
      rcases List.mem_cons.mp member with rfl | later
      · exact .inr (.inl ⟨_, rfl, inner⟩)
      · exact .inr (.inr (.within later inner))
  · rintro (⟨rfl, rfl⟩ | ⟨q, rfl, inner⟩ | later)
    · exact .member List.mem_cons_self
    · exact .within List.mem_cons_self inner
    · cases later with
      | member member => exact .member (List.mem_cons_of_mem _ member)
      | within member inner => exact .within (List.mem_cons_of_mem _ member) inner

mutual
theorem mem_requiredWithin : ∀ (t : TypeTree) (path p : FieldPath),
    p ∈ requiredWithin path t ↔ ∃ q f, p = path ++ q ∧ Reached t q f ∧ f.required = true
  | .structure members, path, p => mem_requiredAmong members path p
  | .list item, path, p => by
    rw [requiredWithin, mem_requiredWithin item path.element p]
    constructor
    · rintro ⟨q, f, rfl, reached, required⟩
      exact ⟨.element :: q, f, path.element_append q, .element reached, required⟩
    · rintro ⟨q, f, rfl, reached, required⟩
      cases reached with
      | element inner => exact ⟨_, f, (path.element_append _).symm, inner, required⟩
  | .map key ⟨name, value, marked, told, isPayload⟩, path, p => by
    rw [requiredWithin, mem_requiredWithin value path.value p]
    constructor
    · rintro ⟨q, f, rfl, reached, required⟩
      exact ⟨.value :: q, f, path.value_append q, .value reached, required⟩
    · rintro ⟨q, f, rfl, reached, required⟩
      cases reached with
      | value inner => exact ⟨_, f, (path.value_append _).symm, inner, required⟩
  | .primitive _, path, p => by
    simp only [requiredWithin, List.not_mem_nil, false_iff]
    exact fun ⟨_, _, _, reached, _⟩ => nomatch reached
  | .blob _, path, p => by
    simp only [requiredWithin, List.not_mem_nil, false_iff]
    exact fun ⟨_, _, _, reached, _⟩ => nomatch reached
  | .document, path, p => by
    simp only [requiredWithin, List.not_mem_nil, false_iff]
    exact fun ⟨_, _, _, reached, _⟩ => nomatch reached
theorem mem_requiredAmong : ∀ (fields : List Field) (path p : FieldPath),
    p ∈ requiredAmong path fields ↔
      ∃ q f, p = path ++ q ∧ Reached (.structure fields) q f ∧ f.required = true
  | [], path, p => by
    simp only [requiredAmong, List.not_mem_nil, false_iff]
    rintro ⟨q, f, -, reached, -⟩
    cases reached with
    | member member => exact nomatch member
    | within member _ => exact nomatch member
  | ⟨name, type, marked, told, isPayload⟩ :: rest, path, p => by
    rw [requiredAmong, List.append_assoc, List.mem_append, List.mem_append,
      mem_requiredWithin type, mem_requiredAmong rest]
    constructor
    · rintro (own | ⟨q, f, rfl, reached, required⟩ | ⟨q, f, rfl, reached, required⟩)
      · cases marked with
        | false => exact absurd own (by simp)
        | true =>
          rw [if_pos rfl, List.mem_singleton] at own
          exact ⟨_, _, own, .member List.mem_cons_self, rfl⟩
      · exact ⟨.member name :: q, f, path.member_append q name,
          reached_cons.mpr (.inr (.inl ⟨q, rfl, reached⟩)), required⟩
      · exact ⟨q, f, rfl, reached_cons.mpr (.inr (.inr reached)), required⟩
    · rintro ⟨q, f, rfl, reached, required⟩
      rcases reached_cons.mp reached with ⟨rfl, rfl⟩ | ⟨q, rfl, inner⟩ | later
      · obtain rfl : marked = true := required
        exact .inl (List.mem_singleton.mpr rfl)
      · exact .inr (.inl ⟨q, f, (path.member_append q name).symm, inner, required⟩)
      · exact .inr (.inr ⟨q, f, rfl, later, required⟩)
end

/-- The required paths of an input are those of the required members that are reached from it. -/
theorem mem_requiredPaths_iff {fields : List Field} {p : FieldPath} :
    p ∈ requiredPaths fields ↔ ∃ f, Reached (.structure fields) p f ∧ f.required = true := by
  rw [requiredPaths, mem_requiredAmong]
  constructor
  · rintro ⟨q, f, rfl, reached⟩
    exact ⟨f, reached⟩
  · rintro ⟨f, reached⟩
    exact ⟨p, f, rfl, reached⟩

end Reached

section Texts

variable {fields : List Field} (plain : NamesHave IsPlain fields)

include plain

theorem nodup_requiredTexts (differ : NamesDiffer fields) :
    (requiredTexts fields false).Nodup := by
  rw [requiredTexts, if_neg (by simp), List.append_nil]
  refine (List.nodup_map_iff_inj_on (nodup_requiredPaths differ)).mpr ?_
  intro p member q also same
  exact text_injective (isPlainPath_of_required plain member) (isPlainPath_of_required plain also)
    same

theorem tokenName_mem_requiredTexts : tokenName ∈ requiredTexts fields false ↔
    ∃ f ∈ fields, f.name = tokenName ∧ f.required = true := by
  rw [requiredTexts, if_neg (by simp), List.append_nil]
  constructor
  · intro told
    have named : ∀ f ∈ fields, f.name ≠ "" := fun f member => (plain.of_mem member).1.1
    have unmarked : ∀ c ∈ tokenName.toList, isMark c = false :=
      List.forall_iff_forall_mem.mp (by decide)
    exact required_of_unmarked named unmarked told
  · rintro ⟨f, member, named, required⟩
    have reached : [.member f.name] ∈ requiredPaths fields :=
      mem_requiredPaths_iff.mpr ⟨f, .member member, required⟩
    rw [← named]
    exact List.mem_map.mpr ⟨_, reached, FieldPath.appendText_empty f.name⟩

end Texts

/-- A path that is built from plain names is read back from its text, and so two such paths of one
text are one path. The required texts of an input are the texts of the required members that are
reached from it, each once and no two the same; the token, which comes last, is told a second time
only where a required member has its name. -/
theorem parsePath_inverts :
    (∀ p, IsBuilt p → parsePath p.text = p)
      ∧ (∀ p q, IsBuilt p → IsBuilt q → p.text = q.text → p = q)
      ∧ ∀ fields, NamesHave IsPlain fields → NamesDiffer fields →
        (∀ text ∈ requiredTexts fields false,
          ∃ p f, Reached (.structure fields) p f ∧ f.required = true ∧ text = p.text)
        ∧ (∀ p f, Reached (.structure fields) p f → f.required = true →
          (requiredTexts fields false).count p.text = 1)
        ∧ (requiredTexts fields false).Nodup
        ∧ requiredTexts fields true = requiredTexts fields false ++ [tokenName]
        ∧ ((requiredTexts fields true).Nodup
          ↔ ∀ f ∈ fields, f.name = tokenName → f.required = false) := by
  refine ⟨fun p built => parsePath_text built.isPlainPath, fun p q built also =>
    text_injective built.isPlainPath also.isPlainPath, fun fields plain differ => ?_⟩
  have once := nodup_requiredTexts plain differ
  have listed : requiredTexts fields false = (requiredPaths fields).map FieldPath.text :=
    List.append_nil _
  have last : requiredTexts fields true = requiredTexts fields false ++ [tokenName] := by
    rw [listed]
    rfl
  refine ⟨?told, ?counted, once, last, ?token⟩
  case told =>
    intro text member
    rw [listed] at member
    obtain ⟨p, required, rfl⟩ := List.mem_map.mp member
    obtain ⟨f, reached, marked⟩ := mem_requiredPaths_iff.mp required
    exact ⟨p, f, reached, marked, rfl⟩
  case counted =>
    intro p f reached marked
    refine List.count_eq_one_of_mem once ?_
    rw [listed]
    exact List.mem_map_of_mem (mem_requiredPaths_iff.mpr ⟨f, reached, marked⟩)
  case token =>
    have fresh : (requiredTexts fields true).Nodup ↔ tokenName ∉ requiredTexts fields false := by
      rw [last, ← List.concat_eq_append, List.nodup_concat]
      exact and_iff_left once
    rw [fresh, tokenName_mem_requiredTexts plain]
    simp

private def cargoFields : List Field := [
  ⟨"token", .primitive "string", false, "", false⟩,
  ⟨"value", .list (.list (.map
    ⟨"key", .structure [⟨"label", .document, true, "", false⟩], true, "", false⟩
    ⟨"value", .structure [⟨"value", .blob false, true, "", false⟩], true, "", false⟩)),
    true, "", false⟩,
  ⟨"label", .map ⟨"key", .primitive "string", false, "", false⟩
    ⟨"value", .structure [⟨"label", .document, true, "", false⟩], false, "", false⟩,
    false, "", false⟩]

/-- Names that are like the texts of steps, steps into loops at the beginning of a path, and a
member of the token's name that need not be given. -/
theorem parsePath_inverts_cargo :
    parsePath "[]{value}.value[][]{value}"
        = [.element, .value, .member "value", .element, .element, .value]
      ∧ NamesHave IsPlain cargoFields ∧ NamesDiffer cargoFields
      ∧ Reached (.structure cargoFields) [.member "value", .element, .element, .value,
        .member "value"] ⟨"value", .blob false, true, "", false⟩
      ∧ (requiredTexts cargoFields false).count "value[][]{value}.value" = 1
      ∧ (requiredTexts cargoFields true).Nodup := by
  have plainName : IsPlain "value" := isPlain_of_all (by decide) (by decide)
  have built : IsBuilt [.element, .value, .member "value", .element, .element, .value] :=
    .value (.element (.element (.member (.value (.element .empty)) plainName)))
  have plain : NamesHave IsPlain cargoFields := by
    simp only [cargoFields, NamesHave, TypeTree.NamesHave, and_true, true_and]
    refine ⟨?_, ?_, ?_, ?_, ?_⟩ <;> exact isPlain_of_all (by decide) (by decide)
  have differ : NamesDiffer cargoFields := by
    simp [cargoFields, NamesDiffer, TypeTree.NamesDiffer]
  have reached : Reached (.structure cargoFields) [.member "value", .element, .element, .value,
      .member "value"] ⟨"value", .blob false, true, "", false⟩ :=
    .within (List.mem_cons_of_mem _ List.mem_cons_self)
      (.element (.element (.value (.member List.mem_cons_self))))
  obtain ⟨reads, -, tells⟩ := parsePath_inverts
  obtain ⟨-, counted, -, -, token⟩ := tells cargoFields plain differ
  refine ⟨reads _ built, plain, differ, reached, counted _ _ reached rfl, token.mpr ?_⟩
  simp [cargoFields, tokenName]

end ServiceCli.Command
