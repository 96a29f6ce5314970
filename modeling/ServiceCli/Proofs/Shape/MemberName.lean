import ServiceCli.Shape.TypeTree

set_option autoImplicit false
set_option relaxedAutoImplicit false

namespace ServiceCli.Shape

mutual
/-- Every member name within a type has a property. -/
def TypeTree.NamesHave (P : String → Prop) : TypeTree → Prop
  | .structure members => NamesHave P members
  | .list member => member.NamesHave P
  | .map _ ⟨_, value, _, _, _⟩ => value.NamesHave P
  | _ => True
/-- Every name of the given members, and within their types, has a property. -/
def NamesHave (P : String → Prop) : List Field → Prop
  | [] => True
  | ⟨name, type, _, _, _⟩ :: rest => P name ∧ type.NamesHave P ∧ NamesHave P rest
end

mutual
/-- The member names of every structure within a type differ from each other. -/
def TypeTree.NamesDiffer : TypeTree → Prop
  | .structure members => NamesDiffer members
  | .list member => member.NamesDiffer
  | .map _ ⟨_, value, _, _, _⟩ => value.NamesDiffer
  | _ => True
def NamesDiffer : List Field → Prop
  | [] => True
  | ⟨name, type, _, _, _⟩ :: rest =>
    name ∉ rest.map Field.name ∧ type.NamesDiffer ∧ NamesDiffer rest
end

theorem NamesHave.of_mem {P : String → Prop} {fields : List Field} (named : NamesHave P fields)
    {f : Field} (member : f ∈ fields) : P f.name ∧ f.type.NamesHave P := by
  induction fields with
  | nil => exact absurd member (by simp)
  | cons g fields ih =>
    obtain ⟨_, _, _, _, _⟩ := g
    obtain ⟨own, within, others⟩ := named
    rcases List.mem_cons.mp member with rfl | later
    · exact ⟨own, within⟩
    · exact ih others later

theorem NamesDiffer.nodup {fields : List Field} (differ : NamesDiffer fields) :
    (fields.map Field.name).Nodup := by
  induction fields with
  | nil => exact List.nodup_nil
  | cons f fields ih =>
    obtain ⟨_, _, _, _, _⟩ := f
    obtain ⟨fresh, -, others⟩ := differ
    exact List.nodup_cons.mpr ⟨fresh, ih others⟩

theorem NamesDiffer.of_mem {fields : List Field} (differ : NamesDiffer fields) {f : Field}
    (member : f ∈ fields) : f.type.NamesDiffer := by
  induction fields with
  | nil => exact absurd member (by simp)
  | cons g fields ih =>
    obtain ⟨_, _, _, _, _⟩ := g
    obtain ⟨-, within, others⟩ := differ
    rcases List.mem_cons.mp member with rfl | later
    · exact within
    · exact ih others later

section Restrict

variable (P : String → Prop) [DecidablePred P]

mutual
/-- A type with the members only whose names have a property. -/
def TypeTree.restrict : TypeTree → TypeTree
  | .structure members => .structure (restrictFields members)
  | .list member => .list member.restrict
  | .map key ⟨name, type, required, documentation, isPayload⟩ =>
    .map key ⟨name, type.restrict, required, documentation, isPayload⟩
  | t => t
/-- The fields whose names have a property, restricted within as well. -/
def restrictFields : List Field → List Field
  | [] => []
  | ⟨name, type, required, documentation, isPayload⟩ :: rest =>
    if P name then
      ⟨name, type.restrict, required, documentation, isPayload⟩ :: restrictFields rest
    else restrictFields rest
end

variable {P}

mutual
theorem TypeTree.restrict_of_namesHave : ∀ t : TypeTree, t.NamesHave P → t.restrict P = t
  | .structure members, named => by
    rw [TypeTree.restrict, restrictFields_of_namesHave members named]
  | .list member, named => by
    have within : member.NamesHave P := named
    rw [TypeTree.restrict, TypeTree.restrict_of_namesHave member within]
  | .map _ ⟨_, type, _, _, _⟩, named => by
    have within : type.NamesHave P := named
    rw [TypeTree.restrict, TypeTree.restrict_of_namesHave type within]
  | .primitive _, _ => rfl
  | .blob _, _ => rfl
  | .document, _ => rfl
theorem restrictFields_of_namesHave : ∀ fields : List Field, NamesHave P fields →
    restrictFields P fields = fields
  | [], _ => rfl
  | ⟨_, type, _, _, _⟩ :: rest, ⟨first, within, others⟩ => by
    rw [restrictFields, if_pos first, TypeTree.restrict_of_namesHave type within,
      restrictFields_of_namesHave rest others]
end

theorem exists_of_mem_restrictFields {f : Field} {fields : List Field}
    (member : f ∈ restrictFields P fields) :
    P f.name ∧ ∃ g ∈ fields, g.name = f.name ∧ g.type.restrict P = f.type := by
  induction fields with
  | nil => exact absurd member List.not_mem_nil
  | cons g fields ih =>
    have later : f ∈ restrictFields P fields →
        P f.name ∧ ∃ h ∈ g :: fields, h.name = f.name ∧ h.type.restrict P = f.type := by
      intro member
      obtain ⟨own, h, among, same⟩ := ih member
      exact ⟨own, h, List.mem_cons_of_mem g among, same⟩
    obtain ⟨other, type, _, _, _⟩ := g
    rw [restrictFields] at member
    split at member
    · rename_i named
      rcases List.mem_cons.mp member with rfl | member
      · exact ⟨named, _, List.mem_cons_self, rfl, rfl⟩
      · exact later member
    · exact later member

theorem mem_names_restrictFields {name : String} {fields : List Field}
    (member : name ∈ (restrictFields P fields).map Field.name) :
    P name ∧ name ∈ fields.map Field.name := by
  obtain ⟨f, left, rfl⟩ := List.mem_map.mp member
  obtain ⟨named, g, among, same, -⟩ := exists_of_mem_restrictFields left
  exact ⟨named, List.mem_map.mpr ⟨g, among, same⟩⟩

theorem mem_restrictFields {f : Field} {fields : List Field} (member : f ∈ fields)
    (named : P f.name) : { f with type := f.type.restrict P } ∈ restrictFields P fields := by
  induction fields with
  | nil => exact absurd member (by simp)
  | cons g fields ih =>
    obtain ⟨name, type, required, documentation, isPayload⟩ := g
    rw [restrictFields]
    rcases List.mem_cons.mp member with rfl | later
    · rw [if_pos named]
      exact List.mem_cons_self
    · split
      · exact List.mem_cons_of_mem _ (ih later)
      · exact ih later

mutual
theorem TypeTree.namesDiffer_restrict : ∀ t : TypeTree, t.NamesDiffer → (t.restrict P).NamesDiffer
  | .structure members, differ => namesDiffer_restrictFields members differ
  | .list member, differ => TypeTree.namesDiffer_restrict member differ
  | .map _ ⟨_, type, _, _, _⟩, differ => TypeTree.namesDiffer_restrict type differ
  | .primitive _, _ => trivial
  | .blob _, _ => trivial
  | .document, _ => trivial
theorem namesDiffer_restrictFields : ∀ fields : List Field, NamesDiffer fields →
    NamesDiffer (restrictFields P fields)
  | [], _ => trivial
  | ⟨_, type, _, _, _⟩ :: rest, ⟨fresh, within, others⟩ => by
    rw [restrictFields]
    split
    · refine ⟨fun again => fresh (mem_names_restrictFields again).2, ?_, ?_⟩
      · exact TypeTree.namesDiffer_restrict type within
      · exact namesDiffer_restrictFields rest others
    · exact namesDiffer_restrictFields rest others
end

end Restrict

end ServiceCli.Shape
