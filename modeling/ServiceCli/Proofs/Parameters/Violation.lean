import Mathlib.Data.List.Nodup
import ServiceCli.Command.Required
import ServiceCli.Proofs.Parameters.PathText
import ServiceCli.Proofs.Shape.MemberName

/-!
Checking parameters by a walk of the type tree. The walk follows the members of a structure into a
mapping, the items of a list and the values of a map; a node that is absent, null or of another kind
is not entered. Main statement: checking the required paths of an input refuses exactly what the
walk finds, sorted by the member that is violated, in the order in which members are declared.
-/

set_option autoImplicit false
set_option relaxedAutoImplicit false

namespace ServiceCli.Parameters

open ServiceCli.Command ServiceCli.Data ServiceCli.Path ServiceCli.Shape

/-- A required member that was not given: where it is declared, and the place that lacks it. -/
structure Violation where
  member : FieldPath
  place : Location

/-- The same violation, seen from one step further out. -/
def Violation.under (s : Segment) (spot : Spot) (x : Violation) : Violation :=
  ⟨s :: x.member, spot :: x.place⟩

/-- A mapping lacks a value under a name where there is none, or null. -/
def lacks (entries : Entries) (name : String) : Bool :=
  match entries.get? name with
  | none => true
  | some .null => true
  | some _ => false

mutual
def violationsIn : TypeTree → Value → List Violation
  | .structure members, .map entries => violationsAmong members entries
  | .list member, .list items =>
    items.zipIdx.flatMap fun (v, i) => (violationsIn member v).map (.under .element (.index i))
  | .map _ ⟨_, value, _, _, _⟩, .map entries =>
    entries.flatMap fun (k, v) =>
      (violationsIn value v).map (.under .value (.key (Literal.keyText k)))
  | _, _ => []
def violationsAmong : List Field → Entries → List Violation
  | [], _ => []
  | ⟨name, type, required, _, _⟩ :: rest, entries =>
    (if required && lacks entries name then [⟨[.member name], [.member name]⟩] else [])
      ++ (violationsIn type (Value.field entries name)).map (.under (.member name) (.member name))
      ++ violationsAmong rest entries
end

/-- A declared member: where it is declared, and whether it is required. -/
structure Declaration where
  path : FieldPath
  required : Bool

/-- The same declaration, seen from one step further out. -/
def Declaration.under (s : Segment) (d : Declaration) : Declaration := ⟨s :: d.path, d.required⟩

mutual
def declaredIn : TypeTree → List Declaration
  | .structure members => declaredAmong members
  | .list member => (declaredIn member).map (.under .element)
  | .map _ ⟨_, value, _, _, _⟩ => (declaredIn value).map (.under .value)
  | _ => []
def declaredAmong : List Field → List Declaration
  | [] => []
  | ⟨name, type, required, _, _⟩ :: rest =>
    ⟨[.member name], required⟩ :: (declaredIn type).map (.under (.member name))
      ++ declaredAmong rest
end

/-- The violations of one member, in their order. -/
def violationsOf (p : FieldPath) (found : List Violation) : List Violation :=
  found.filter fun x => decide (x.member = p)

/-- Violations of one member stay in their order; members come in the order of declaration. -/
def byDeclaration (fields : List Field) (found : List Violation) : List Violation :=
  (declaredAmong fields).flatMap fun d => violationsOf d.path found

private theorem declaration_heads {fields : List Field} {d : Declaration}
    (declared : d ∈ declaredAmong fields) :
    ∃ name ∈ fields.map Field.name, ∃ rest, d.path = .member name :: rest := by
  induction fields with
  | nil => simp [declaredAmong] at declared
  | cons f fields ih =>
    obtain ⟨name, type, required, _, _⟩ := f
    simp only [declaredAmong, List.cons_append, List.mem_cons, List.mem_append,
      List.mem_map] at declared
    rcases declared with rfl | ⟨inner, -, rfl⟩ | declared
    · exact ⟨name, by simp, [], rfl⟩
    · exact ⟨name, by simp, inner.path, rfl⟩
    · obtain ⟨name, member, rest, equal⟩ := ih declared
      exact ⟨name, List.mem_cons_of_mem _ member, rest, equal⟩

private theorem declared_ne_nil : ∀ (t : TypeTree), ∀ d ∈ declaredIn t, d.path ≠ []
  | .structure _, d, declared => by
    obtain ⟨name, -, rest, equal⟩ := declaration_heads declared
    simp [equal]
  | .list _, d, declared => by
    obtain ⟨inner, -, rfl⟩ := List.mem_map.mp declared
    simp [Declaration.under]
  | .map _ ⟨_, _, _, _, _⟩, d, declared => by
    obtain ⟨inner, -, rfl⟩ := List.mem_map.mp declared
    simp [Declaration.under]
  | .primitive _, d, declared => by simp [declaredIn] at declared
  | .blob _, d, declared => by simp [declaredIn] at declared
  | .document, d, declared => by simp [declaredIn] at declared

mutual
private theorem violation_declaredIn : ∀ (t : TypeTree) (v : Value) (x : Violation),
    x ∈ violationsIn t v → ∃ d ∈ declaredIn t, x.member = d.path
  | .structure members, v, x, found => by
    cases v with
    | map entries =>
      exact violation_declaredAmong members entries x (by simpa [violationsIn] using found)
    | _ => simp [violationsIn] at found
  | .list member, v, x, found => by
    cases v with
    | list items =>
      simp only [violationsIn, List.mem_flatMap, List.mem_map] at found
      obtain ⟨⟨w, i⟩, -, inner, found, rfl⟩ := found
      obtain ⟨d, declared, equal⟩ := violation_declaredIn member w inner found
      exact ⟨d.under .element, by simpa [declaredIn] using ⟨d, declared, rfl⟩,
        congrArg (Segment.element :: ·) equal⟩
    | _ => simp [violationsIn] at found
  | .map _ ⟨_, value, _, _, _⟩, v, x, found => by
    cases v with
    | map entries =>
      simp only [violationsIn, List.mem_flatMap, List.mem_map] at found
      obtain ⟨⟨k, w⟩, -, inner, found, rfl⟩ := found
      obtain ⟨d, declared, equal⟩ := violation_declaredIn value w inner found
      exact ⟨d.under .value, by simpa [declaredIn] using ⟨d, declared, rfl⟩,
        congrArg (Segment.value :: ·) equal⟩
    | _ => simp [violationsIn] at found
  | .primitive _, v, x, found => by cases v <;> simp [violationsIn] at found
  | .blob _, v, x, found => by cases v <;> simp [violationsIn] at found
  | .document, v, x, found => by cases v <;> simp [violationsIn] at found
private theorem violation_declaredAmong : ∀ (fields : List Field) (entries : Entries)
    (x : Violation), x ∈ violationsAmong fields entries →
      ∃ d ∈ declaredAmong fields, x.member = d.path
  | [], _, _, found => by simp [violationsAmong] at found
  | ⟨name, type, required, _, _⟩ :: rest, entries, x, found => by
    simp only [violationsAmong, List.mem_append, List.mem_map] at found
    rcases found with (found | ⟨inner, found, rfl⟩) | found
    · have own : x = ⟨[.member name], [.member name]⟩ := by
        split at found
        · simpa using found
        · simp at found
      exact ⟨⟨[.member name], required⟩, by simp [declaredAmong], by rw [own]⟩
    · obtain ⟨d, declared, equal⟩ := violation_declaredIn type _ inner found
      refine ⟨d.under (.member name), ?_, congrArg (Segment.member name :: ·) equal⟩
      simp only [declaredAmong, List.cons_append, List.mem_cons, List.mem_append, List.mem_map]
      exact Or.inr (Or.inl ⟨d, declared, rfl⟩)
    · obtain ⟨d, declared, equal⟩ := violation_declaredAmong rest entries x found
      exact ⟨d, by simp [declaredAmong, declared], equal⟩
end

mutual
private theorem requiredWithin_eq : ∀ (path : FieldPath) (t : TypeTree),
    requiredWithin path t = ((declaredIn t).filter (·.required)).map (path ++ ·.path)
  | path, .structure members => by
    rw [requiredWithin, declaredIn, requiredAmong_eq path members]
  | path, .list member => by
    rw [requiredWithin, declaredIn, requiredWithin_eq path.element member]
    simp [FieldPath.element, List.filter_map, Function.comp_def, Declaration.under]
  | path, .map _ ⟨_, value, _, _, _⟩ => by
    rw [requiredWithin, declaredIn, requiredWithin_eq path.value value]
    simp [FieldPath.value, List.filter_map, Function.comp_def, Declaration.under]
  | _, .primitive _ => by simp [requiredWithin, declaredIn]
  | _, .blob _ => by simp [requiredWithin, declaredIn]
  | _, .document => by simp [requiredWithin, declaredIn]
private theorem requiredAmong_eq : ∀ (path : FieldPath) (fields : List Field),
    requiredAmong path fields = ((declaredAmong fields).filter (·.required)).map (path ++ ·.path)
  | _, [] => by simp [requiredAmong, declaredAmong]
  | path, ⟨name, type, required, _, _⟩ :: rest => by
    rw [requiredAmong, requiredWithin_eq (path.member name) type, requiredAmong_eq path rest]
    cases required <;>
      simp [declaredAmong, FieldPath.member, List.filter_map, Function.comp_def,
        Declaration.under]
end

private theorem requiredPaths_eq (fields : List Field) :
    requiredPaths fields = ((declaredAmong fields).filter (·.required)).map Declaration.path := by
  rw [requiredPaths, requiredAmong_eq]
  rfl

mutual
private theorem plain_declaredIn : ∀ (t : TypeTree), t.NamesHave IsPlain →
    ∀ d ∈ declaredIn t, IsPlainPath d.path
  | .structure members, plain, d, declared => plain_declaredAmong members plain d declared
  | .list member, plain, d, declared => by
    obtain ⟨inner, source, rfl⟩ := List.mem_map.mp declared
    exact (plain_declaredIn member plain inner source).cons (by simp)
  | .map _ ⟨_, value, _, _, _⟩, plain, d, declared => by
    obtain ⟨inner, source, rfl⟩ := List.mem_map.mp declared
    exact (plain_declaredIn value plain inner source).cons (by simp)
  | .primitive _, _, d, declared => by simp [declaredIn] at declared
  | .blob _, _, d, declared => by simp [declaredIn] at declared
  | .document, _, d, declared => by simp [declaredIn] at declared
private theorem plain_declaredAmong : ∀ (fields : List Field), NamesHave IsPlain fields →
    ∀ d ∈ declaredAmong fields, IsPlainPath d.path
  | [], _, d, declared => by simp [declaredAmong] at declared
  | ⟨name, type, required, _, _⟩ :: rest, plain, d, declared => by
    obtain ⟨own, within, others⟩ := plain
    have first : ∀ n, Segment.member name = .member n → IsPlain n := by
      rintro n equal
      exact Segment.member.inj equal ▸ own
    simp only [declaredAmong, List.cons_append, List.mem_cons, List.mem_append,
      List.mem_map] at declared
    rcases declared with rfl | ⟨inner, declared, rfl⟩ | declared
    · exact IsPlainPath.cons first (by simp [IsPlainPath])
    · exact (plain_declaredIn type within inner declared).cons first
    · exact plain_declaredAmong rest others d declared
end

private theorem paths_under (s : Segment) (ds : List Declaration) :
    (ds.map (.under s)).map Declaration.path = (ds.map Declaration.path).map (s :: ·) := by
  simp [Declaration.under, Function.comp_def]

mutual
private theorem nodup_declaredIn : ∀ (t : TypeTree), t.NamesDiffer →
    ((declaredIn t).map Declaration.path).Nodup
  | .structure members, differ => nodup_declaredAmong members differ
  | .list member, differ => by
    rw [declaredIn, paths_under]
    exact (nodup_declaredIn member differ).map List.cons_injective
  | .map _ ⟨_, value, _, _, _⟩, differ => by
    rw [declaredIn, paths_under]
    exact (nodup_declaredIn value differ).map List.cons_injective
  | .primitive _, _ => by simp [declaredIn]
  | .blob _, _ => by simp [declaredIn]
  | .document, _ => by simp [declaredIn]
private theorem nodup_declaredAmong : ∀ (fields : List Field), NamesDiffer fields →
    ((declaredAmong fields).map Declaration.path).Nodup
  | [], _ => by simp [declaredAmong]
  | ⟨name, type, required, _, _⟩ :: rest, differ => by
    obtain ⟨fresh, within, others⟩ := differ
    have own : [Segment.member name] ∉ ((declaredIn type).map Declaration.path).map
        (Segment.member name :: ·) := by
      simpa using fun d declared => declared_ne_nil type d declared
    have apart : ∀ d ∈ declaredAmong rest, ∀ p, d.path ≠ .member name :: p := by
      intro d declared p equal
      obtain ⟨n, member, tail, head⟩ := declaration_heads declared
      rw [head] at equal
      exact fresh (Segment.member.inj (List.cons.inj equal).1 ▸ member)
    rw [declaredAmong, List.cons_append, List.map_cons, List.map_append, paths_under]
    refine List.nodup_cons.mpr ⟨?_, List.nodup_append.mpr ⟨?_, ?_, ?_⟩⟩
    · intro member
      rcases List.mem_append.mp member with member | member
      · exact own member
      · obtain ⟨d, declared, equal⟩ := List.mem_map.mp member
        exact apart d declared [] equal
    · exact (nodup_declaredIn type within).map List.cons_injective
    · exact nodup_declaredAmong rest others
    · rintro p inner q outer rfl
      obtain ⟨p, -, rfl⟩ := List.mem_map.mp inner
      obtain ⟨d, declared, equal⟩ := List.mem_map.mp outer
      exact apart d declared p equal
end

private theorem violationsOf_append (p : FieldPath) (found more : List Violation) :
    violationsOf p (found ++ more) = violationsOf p found ++ violationsOf p more :=
  List.filter_append found more

private theorem violationsOf_flatMap {α : Type} (p : FieldPath) (items : List α)
    (f : α → List Violation) :
    violationsOf p (items.flatMap f) = items.flatMap fun a => violationsOf p (f a) :=
  List.filter_flatMap

private theorem violationsOf_under (s : Segment) (spot : Spot) (p : FieldPath)
    (found : List Violation) :
    violationsOf (s :: p) (found.map (.under s spot))
      = (violationsOf p found).map (.under s spot) := by
  simp [violationsOf, List.filter_map, Function.comp_def, Violation.under]

private theorem violationsOf_eq_nil {p : FieldPath} {found : List Violation}
    (apart : ∀ x ∈ found, x.member ≠ p) : violationsOf p found = [] := by
  simpa [violationsOf] using apart

private theorem missingAt_location (l : Location) (p : FieldPath) (v : Value) :
    missingAt l p v = (missingAt [] p v).map (l ++ ·) := by
  induction p generalizing l v with
  | nil =>
    simp only [missingAt]
    split <;> simp
  | cons s p ih =>
    have step (spot : Spot) (w : Value) : missingAt (l ++ [spot]) p w
        = (missingAt ([] ++ [spot]) p w).map (l ++ ·) := by
      rw [ih (l ++ [spot]) w, ih ([] ++ [spot]) w]
      simp
    cases s <;> cases v <;> simp [missingAt, List.map_flatMap, step]

private theorem missingAt_under (spot : Spot) (p : FieldPath) (v : Value) :
    missingAt ([] ++ [spot]) p v = (missingAt [] p v).map (spot :: ·) := by
  rw [missingAt_location]
  simp

private theorem beq_null_eq_lacks (entries : Entries) (name : String) :
    (Value.field entries name == .null) = lacks entries name := by
  unfold Value.field lacks
  split <;> simp_all

private theorem places_under (s : Segment) (spot : Spot) (found : List Violation) :
    (found.map (.under s spot)).map Violation.place
      = (found.map Violation.place).map (spot :: ·) := by
  simp [Violation.under, Function.comp_def]

private theorem violationsOf_others {name : String} {rest : List Field}
    (fresh : name ∉ rest.map Field.name) (p : FieldPath) (entries : Entries) :
    violationsOf (.member name :: p) (violationsAmong rest entries) = [] := by
  apply violationsOf_eq_nil
  intro x found same
  obtain ⟨d, declared, equal⟩ := violation_declaredAmong rest entries x found
  obtain ⟨n, member, tail, head⟩ := declaration_heads declared
  rw [equal, head] at same
  exact fresh (Segment.member.inj (List.cons.inj same).1 ▸ member)

private theorem violationsOf_within (name : String) (type : TypeTree) (v : Value)
    {p : FieldPath} (outside : ∀ q ≠ [], p ≠ .member name :: q) :
    violationsOf p ((violationsIn type v).map (.under (.member name) (.member name))) = [] := by
  apply violationsOf_eq_nil
  intro x found same
  obtain ⟨inner, source, rfl⟩ := List.mem_map.mp found
  obtain ⟨d, declared, equal⟩ := violation_declaredIn type v inner source
  exact outside inner.member (equal ▸ declared_ne_nil type d declared) same.symm

mutual
private theorem places_declaredIn : ∀ (t : TypeTree), t.NamesDiffer → ∀ (v : Value),
    ∀ d ∈ declaredIn t, (violationsOf d.path (violationsIn t v)).map Violation.place
      = if d.required then missingAt [] d.path v else []
  | .structure members, differ, v, d, declared => by
    cases v with
    | map entries => exact places_declaredAmong members differ entries d declared
    | _ =>
      obtain ⟨name, -, rest, head⟩ := declaration_heads declared
      simp [violationsIn, violationsOf, missingAt, head]
  | .list member, differ, v, d, declared => by
    obtain ⟨inner, source, rfl⟩ := List.mem_map.mp declared
    cases v with
    | list items =>
      have ih (w : Value) := places_declaredIn member differ w inner source
      simp only [violationsIn, Declaration.under, violationsOf_flatMap, violationsOf_under,
        List.map_flatMap, places_under, ih, missingAt, missingAt_under]
      cases inner.required <;> simp
    | _ => simp [violationsIn, violationsOf, missingAt, Declaration.under]
  | .map _ ⟨_, value, _, _, _⟩, differ, v, d, declared => by
    obtain ⟨inner, source, rfl⟩ := List.mem_map.mp declared
    cases v with
    | map entries =>
      have ih (w : Value) := places_declaredIn value differ w inner source
      simp only [violationsIn, Declaration.under, violationsOf_flatMap, violationsOf_under,
        List.map_flatMap, places_under, ih, missingAt, missingAt_under]
      cases inner.required <;> simp
    | _ => simp [violationsIn, violationsOf, missingAt, Declaration.under]
  | .primitive _, _, _, d, declared => by simp [declaredIn] at declared
  | .blob _, _, _, d, declared => by simp [declaredIn] at declared
  | .document, _, _, d, declared => by simp [declaredIn] at declared
/-- For one declared member, the walk finds what checking its path finds, in the same order. -/
private theorem places_declaredAmong : ∀ (fields : List Field), NamesDiffer fields →
    ∀ (entries : Entries), ∀ d ∈ declaredAmong fields,
      (violationsOf d.path (violationsAmong fields entries)).map Violation.place
        = if d.required then missingAt [] d.path (.map entries) else []
  | [], _, _, d, declared => by simp [declaredAmong] at declared
  | ⟨name, type, required, _, _⟩ :: rest, differ, entries, d, declared => by
    obtain ⟨fresh, within, others⟩ := differ
    simp only [declaredAmong, List.cons_append, List.mem_cons, List.mem_append,
      List.mem_map] at declared
    simp only [violationsAmong, violationsOf_append]
    rcases declared with rfl | ⟨inner, source, rfl⟩ | declared
    · rw [violationsOf_within name type _ (by simp), violationsOf_others fresh]
      cases required <;> cases absent : lacks entries name <;>
        simp [violationsOf, missingAt, beq_null_eq_lacks, absent]
    · have own : violationsOf (inner.under (.member name)).path
          (if required && lacks entries name then [⟨[.member name], [.member name]⟩] else [])
            = [] := by
        have filled := declared_ne_nil type inner source
        apply violationsOf_eq_nil
        intro x found same
        split at found <;> simp_all [Declaration.under]
      have ih := places_declaredIn type within (Value.field entries name) inner source
      rw [own, Declaration.under, violationsOf_others fresh, violationsOf_under, List.nil_append,
        List.append_nil, places_under, ih, missingAt, missingAt_under]
      cases inner.required <;> simp
    · obtain ⟨n, member, tail, head⟩ := declaration_heads declared
      have other : n ≠ name := by
        rintro rfl
        exact fresh member
      have own : violationsOf d.path
          (if required && lacks entries name then [⟨[.member name], [.member name]⟩] else [])
            = [] := by
        apply violationsOf_eq_nil
        intro x found same
        split at found <;> simp_all
      rw [own, violationsOf_within name type _ (by simp [head, other]), List.nil_append,
        List.nil_append, places_declaredAmong rest others entries d declared]
end

private theorem missing_requiredPaths {fields : List Field} (differ : NamesDiffer fields)
    (entries : Entries) :
    missing (.map entries) (requiredPaths fields)
      = (byDeclaration fields (violationsAmong fields entries)).map Violation.place := by
  have places := places_declaredAmong fields differ entries
  rw [missing, requiredPaths_eq, byDeclaration, List.map_flatMap, List.flatMap_map]
  generalize declaredAmong fields = ds at places
  induction ds with
  | nil => rfl
  | cons d ds ih =>
    have first := places d List.mem_cons_self
    have others := ih fun e member => places e (List.mem_cons_of_mem d member)
    rw [List.flatMap_cons, first, ← others]
    cases marked : d.required <;> simp [marked]

private theorem flatMap_violationsOf_perm {paths : List FieldPath} (nodup : paths.Nodup)
    {found : List Violation} (covered : ∀ x ∈ found, x.member ∈ paths) :
    (paths.flatMap fun p => violationsOf p found).Perm found := by
  induction paths generalizing found with
  | nil =>
    have none : found = [] := List.eq_nil_iff_forall_not_mem.mpr fun x member => by
      simpa using covered x member
    simp [none]
  | cons p paths ih =>
    obtain ⟨fresh, nodup⟩ := List.nodup_cons.mp nodup
    let others := found.filter fun x => !decide (x.member = p)
    have later : (paths.flatMap fun q => violationsOf q found)
        = paths.flatMap fun q => violationsOf q others := by
      apply List.flatMap_congr
      intro q member
      have differ : q ≠ p := by
        rintro rfl
        exact fresh member
      rw [violationsOf, violationsOf, List.filter_filter]
      apply List.filter_congr
      intro x _
      by_cases same : x.member = q <;> simp [same, differ]
    have kept : ∀ x ∈ others, x.member ∈ paths := by
      intro x member
      obtain ⟨member, other⟩ := List.mem_filter.mp member
      rcases List.mem_cons.mp (covered x member) with equal | member
      · simp [equal] at other
      · exact member
    rw [List.flatMap_cons, later]
    exact ((ih nodup kept).append_left _).trans (List.filter_append_perm _ found)

/-- Every violation that is found is told once, whatever the order of telling. -/
private theorem byDeclaration_perm {fields : List Field} (differ : NamesDiffer fields)
    (entries : Entries) :
    (byDeclaration fields (violationsAmong fields entries)).Perm
      (violationsAmong fields entries) := by
  have covered : ∀ x ∈ violationsAmong fields entries,
      x.member ∈ (declaredAmong fields).map Declaration.path := by
    intro x found
    obtain ⟨d, declared, equal⟩ := violation_declaredAmong fields entries x found
    exact List.mem_map.mpr ⟨d, declared, equal.symm⟩
  have perm := flatMap_violationsOf_perm (nodup_declaredAmong fields differ) covered
  rwa [List.flatMap_map] at perm

theorem mem_requiredPaths {fields : List Field} {p : FieldPath}
    (member : p ∈ requiredPaths fields) : ∃ d ∈ declaredAmong fields, d.path = p := by
  rw [requiredPaths_eq] at member
  obtain ⟨d, member, equal⟩ := List.mem_map.mp member
  exact ⟨d, (List.mem_filter.mp member).1, equal⟩

theorem nodup_requiredPaths {fields : List Field} (differ : NamesDiffer fields) :
    (requiredPaths fields).Nodup := by
  rw [requiredPaths_eq]
  exact (nodup_declaredAmong fields differ).sublist (List.filter_sublist.map _)

theorem isPlainPath_of_required {fields : List Field} (plain : NamesHave IsPlain fields)
    {p : FieldPath} (member : p ∈ requiredPaths fields) : IsPlainPath p := by
  obtain ⟨d, declared, rfl⟩ := mem_requiredPaths member
  exact plain_declaredAmong fields plain d declared

/-- Reading the texts of the required paths gives the paths back. -/
theorem parsed_requiredTexts {fields : List Field} (plain : NamesHave IsPlain fields) :
    (requiredTexts fields false).map parsePath = requiredPaths fields := by
  have each : ∀ p ∈ requiredPaths fields, (parsePath ∘ FieldPath.text) p = id p :=
    fun p member => parsePath_text (isPlainPath_of_required plain member)
  rw [requiredTexts, if_neg (by simp), List.append_nil, List.map_map,
    List.map_congr_left each, List.map_id]

private theorem requiredPaths_filled (fields : List Field) :
    (requiredPaths fields).any List.isEmpty = false := by
  rw [List.any_eq_false]
  intro p member
  obtain ⟨d, declared, rfl⟩ := mem_requiredPaths member
  obtain ⟨name, -, rest, head⟩ := declaration_heads declared
  simp [head]

/-- Checking the required paths of an input accepts parameters in which the walk finds nothing, and
otherwise names the place of each violation once: by member in the order of declaration, and for
one member in the order of the containers. -/
theorem validate_eq_walk {fields : List Field} (plain : NamesHave IsPlain fields)
    (differ : NamesDiffer fields) (entries : Entries) :
    validate (.map entries) (requiredTexts fields false)
        = (if (violationsAmong fields entries).isEmpty then .ok ()
          else .error (.parameter (.missingRequired
            ((byDeclaration fields (violationsAmong fields entries)).map (·.place.text))))) ∧
      (byDeclaration fields (violationsAmong fields entries)).Perm
        (violationsAmong fields entries) := by
  have perm := byDeclaration_perm differ entries
  refine ⟨?_, perm⟩
  rw [validate, parsed_requiredTexts plain, requiredPaths_filled, missing_requiredPaths differ]
  cases told : byDeclaration fields (violationsAmong fields entries) with
  | nil =>
    have none : violationsAmong fields entries = [] := by
      rw [told] at perm
      exact perm.nil_eq.symm
    simp [none]
  | cons x rest =>
    have some : (violationsAmong fields entries).isEmpty = false := by
      rw [told] at perm
      cases found : violationsAmong fields entries with
      | nil => rw [found] at perm; exact absurd perm.eq_nil (by simp)
      | cons => rfl
    simp [some]

private def orderFields : List Field := [
  ⟨"name", .primitive "string", true, "", false⟩,
  ⟨"parts", .list (.structure [⟨"sku", .primitive "string", true, "", false⟩,
    ⟨"icon", .blob false, true, "", false⟩]), false, "", false⟩,
  ⟨"tags", .map ⟨"key", .primitive "string", false, "", false⟩
    ⟨"value", .structure [⟨"sku", .primitive "string", true, "", false⟩], false, "", false⟩,
    true, "", false⟩]

private def orderParameters : Entries := [
  (.str "tags", .map [(.str "new", .map [(.str "sku", .null)]), (.str "old", .null)]),
  (.str "parts", .list [.map [(.str "sku", .str "a")], .int 5, .map []])]

/-- Items and values of the wrong kind lack nothing; what lacks is told by member. -/
theorem validate_orderParameters :
    NamesHave IsPlain orderFields ∧ NamesDiffer orderFields ∧
      validate (.map orderParameters) (requiredTexts orderFields false)
        = .error (.parameter (.missingRequired
          ["name", "parts[2].sku", "parts[0].icon", "parts[2].icon", "tags\x7bnew\x7d.sku"])) := by
  have plain : NamesHave IsPlain orderFields := by
    simp only [orderFields, NamesHave, TypeTree.NamesHave, and_true, true_and, and_assoc]
    refine ⟨?_, ?_, ?_, ?_, ?_, ?_⟩ <;> exact isPlain_of_all (by decide) (by decide)
  have differ : NamesDiffer orderFields := by
    simp [orderFields, NamesDiffer, TypeTree.NamesDiffer]
  refine ⟨plain, differ, ?_⟩
  have walk := (validate_eq_walk plain differ orderParameters).1
  rw [walk]
  rfl

end ServiceCli.Parameters
