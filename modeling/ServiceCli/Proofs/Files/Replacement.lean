import ServiceCli.Proofs.Files.Growth

set_option autoImplicit false
set_option relaxedAutoImplicit false

namespace ServiceCli.Files

open Outcome (bind_eq_ok)

/-- A path from the current place downwards. -/
structure Path.IsDownward (p : Path) : Prop where
  relative : p.anchor = .relative
  down : upName ∉ p.names
  nameable : p.isUnnameable = false

namespace Path

variable {p q : Path}

theorem IsDownward.join (first : p.IsDownward) (second : q.IsDownward) :
    (p.join q).IsDownward := by
  have joined : p.join q = { p with names := p.names ++ q.names } := by
    rw [Path.join, second.relative]
  rw [joined]
  refine ⟨first.relative, ?_, ?_⟩
  · intro up
    rcases List.mem_append.mp up with up | up
    · exact first.down up
    · exact second.down up
  · rw [isUnnameable_eq_false]
    intro n member
    rcases List.mem_append.mp member with member | member
    · exact isUnnameable_eq_false.mp first.nameable n member
    · exact isUnnameable_eq_false.mp second.nameable n member

theorem IsDownward.parent (down : p.IsDownward) : p.parent.IsDownward := by
  refine ⟨down.relative, fun up => down.down (List.dropLast_subset _ up), ?_⟩
  rw [isUnnameable_eq_false]
  intro n member
  exact isUnnameable_eq_false.mp down.nameable n (List.dropLast_subset _ member)

theorem names_eq_of_name (named : p.name.isEmpty = false) :
    p.names = p.parent.names ++ [p.name] := by
  rw [Path.name] at named ⊢
  cases last : p.names.getLast? with
  | none =>
    rw [last] at named
    cases named
  | some n => exact (List.dropLast_append_getLast? n last).symm

end Path

namespace System

def placeOf (s : System) (p : Path) : Place := s.current ++ p.names

section Following

variable {tree : Tree} {place : Place} {names : List String}

theorem follow_downward {place' : Place} (down : upName ∉ names)
    (followed : follow tree place names = .ok place') :
    place' = place ++ names ∧ ∀ n ∈ names, n.utf8ByteSize ≤ nameLimit := by
  induction names generalizing place with
  | nil =>
    obtain rfl := Except.ok.inj followed
    simp
  | cons name names ih =>
    have other : name ≠ upName := fun same => down (same ▸ List.mem_cons_self)
    rw [follow] at followed
    split at followed
    case h_2 => cases followed
    case h_3 => cases followed
    rw [if_neg other] at followed
    split at followed
    · cases followed
    · rename_i short
      split at followed
      case h_2 => cases followed
      obtain ⟨rfl, fits⟩ := ih (fun up => down (List.mem_cons_of_mem _ up)) followed
      refine ⟨by simp, ?_⟩
      rintro n (_ | ⟨_, member⟩)
      · omega
      · exact fits n member

theorem follow_of_get? {t : Tree} (down : upName ∉ names)
    (fits : ∀ n ∈ names, n.utf8ByteSize ≤ nameLimit) (there : tree.get? (place ++ names) = some t) :
    follow tree place names = .ok (place ++ names) := by
  induction names generalizing place with
  | nil => rw [follow, List.append_nil]
  | cons name names ih =>
    have other : name ≠ upName := fun same => down (same ▸ List.mem_cons_self)
    have short : ¬ nameLimit < name.utf8ByteSize := Nat.not_lt.mpr (fits name List.mem_cons_self)
    have next : place ++ name :: names = place ++ [name] ++ names := by simp
    rw [Tree.get?_append] at there
    obtain ⟨u, here, below⟩ := Option.bind_eq_some_iff.mp there
    cases u with
    | file bytes => cases below
    | directory entries =>
      obtain ⟨v, found, -⟩ := Tree.get?_cons below
      have inside : tree.get? (place ++ [name] ++ names) = some t := by
        rw [← next, Tree.get?_append, here]
        exact below
      have rest : follow tree (place ++ [name]) names = .ok (place ++ [name] ++ names) :=
        ih (fun up => down (List.mem_cons_of_mem _ up))
          (fun n member => fits n (List.mem_cons_of_mem _ member)) inside
      rw [follow, here]
      simp only [if_neg other, if_neg short, found]
      rw [rest, next]

end Following

section Writing

variable (s : System) {p : Path} (bytes : List UInt8)

theorem readBytes_of_seen (down : p.IsDownward) (accepted : accept p = .ok ())
    (fits : ∀ n ∈ p.names, n.utf8ByteSize ≤ nameLimit)
    (seen : s.tree.seen (s.placeOf p) = some (some bytes)) : s.readBytes p = .ok bytes := by
  have start : s.start p = s.current := by rw [System.start, down.relative]
  rw [Tree.seen, placeOf] at seen
  obtain ⟨t, there, content⟩ := Option.map_eq_some_iff.mp seen
  have located : s.locate p = .ok (s.current ++ p.names) := by
    rw [locate, accepted, start]
    exact follow_of_get? down.down fits there
  cases t with
  | directory => cases content
  | file held =>
    obtain rfl := Option.some.inj content
    rw [readBytes, find, located]
    simp only [bind, Except.bind, there]
    rfl

theorem makeTemporary_cases (down : p.IsDownward) :
    (∃ cause, s.makeTemporary p bytes = refused cause) ∨
    ∃ place entries, accept p = .ok () ∧ s.locate p.parent = .ok place
      ∧ p.name.utf8ByteSize ≤ nameLimit ∧ s.tree.get? place = some (.directory entries)
      ∧ s.makeTemporary p bytes = .ok (
        { s with tree := s.tree.put (place ++ [freeTemporary entries p.name]) (.file bytes) },
        place, freeTemporary entries p.name) := by
  cases accepted : accept p with
  | error e =>
    obtain ⟨cause, rfl⟩ := accept_isSystemic down.nameable e accepted
    exact .inl ⟨cause, by rw [makeTemporary, accepted]; rfl⟩
  | ok _ =>
    cases located : s.locate p.parent with
    | error e =>
      obtain ⟨cause, rfl⟩ := s.locate_isSystemic down.parent.nameable e located
      exact .inl ⟨cause, by rw [makeTemporary, accepted, located]; rfl⟩
    | ok place =>
      rw [makeTemporary, accepted, located]
      simp only [bind, Except.bind]
      split
      · exact .inl ⟨_, rfl⟩
      · rename_i short
        split
        · exact .inl ⟨_, rfl⟩
        · split
          · rename_i entries holds
            exact .inr ⟨place, entries, trivial, rfl, by omega, holds, rfl⟩
          · exact .inl ⟨_, rfl⟩
          · exact .inl ⟨_, rfl⟩

variable {place : Place} {entries : List (String × Tree)} {temporary : String}

theorem renameEntry_cases (name : String)
    (holds : s.tree.get? place = some (.directory entries))
    (free : Tree.child? entries temporary = none) :
    let made : System := { s with tree := s.tree.put (place ++ [temporary]) (.file bytes) }
    (∃ cause, made.renameEntry place temporary name = refused cause) ∨
    name.isEmpty = false ∧ (∀ u, Tree.child? entries name = some u → u.IsBare)
      ∧ made.renameEntry place temporary name
        = .ok { s with tree := s.tree.put (place ++ [name]) (.file bytes) } := by
  intro made
  have beside : made.tree.get? place
      = some (.directory (Tree.putChild entries temporary (.file bytes))) := Tree.get?_put holds _
  have own : made.tree.get? (place ++ [temporary]) = some (.file bytes) := by
    rw [Tree.child?_of_get? beside, Tree.child?_putChild_same]
  have removed : made.tree.remove place temporary = s.tree := Tree.remove_put holds free _
  rw [renameEntry, own]
  split
  · exact .inl ⟨_, rfl⟩
  · rename_i sayable
    have named : name.isEmpty = false := by
      simp only [Bool.or_eq_true, not_or, Bool.not_eq_true] at sayable
      exact sayable.1
    have old : (∀ below, made.tree.get? (place ++ [name]) ≠ some (.directory below)) →
        ∀ u, Tree.child? entries name = some u → u.IsBare := by
      -- what has the name beside the temporary file had it before
      intro apart u found
      have differs : name ≠ temporary := by
        rintro rfl
        rw [free] at found
        cases found
      have there : made.tree.get? (place ++ [name]) = some u := by
        rw [Tree.child?_of_get? beside, Tree.child?_putChild_of_ne differs, found]
      cases u with
      | file held => exact fun _ _ => rfl
      | directory below => exact absurd there (apart below)
    split
    · exact .inl ⟨_, rfl⟩
    · rename_i absent _
      cases absent
    · rename_i entry same apart
      obtain rfl := Option.some.inj same
      refine .inr ⟨named, old apart, ?_⟩
      rw [removeEntry, removed]

/-- A file takes its place in one step, if its directory is there, the names are not too long and
no directory is in the way; otherwise everything is as it was. -/
theorem replaceFile_cases (down : p.IsDownward) :
    (∃ cause, s.replaceFile p bytes = (s, refused cause)) ∨
    ∃ place entries, accept p = .ok () ∧ s.locate p.parent = .ok place
      ∧ p.name.utf8ByteSize ≤ nameLimit ∧ p.name.isEmpty = false
      ∧ s.tree.get? place = some (.directory entries)
      ∧ (∀ u, Tree.child? entries p.name = some u → u.IsBare)
      ∧ s.replaceFile p bytes
        = ({ s with tree := s.tree.put (place ++ [p.name]) (.file bytes) }, .ok ()) := by
  rcases s.makeTemporary_cases bytes down with
    ⟨cause, failed⟩ | ⟨place, entries, accepted, located, short, holds, made⟩
  · exact .inl ⟨cause, by rw [replaceFile, failed]; rfl⟩
  · have free := freeTemporary_free entries p.name
    have removed := Tree.remove_put holds free (.file bytes)
    rcases s.renameEntry_cases bytes p.name holds free with ⟨cause, failed⟩ | ⟨named, old, renamed⟩
    · refine .inl ⟨cause, ?_⟩
      rw [replaceFile, made]
      simp only [failed, refused, removeEntry, removed]
    · refine .inr ⟨place, entries, accepted, located, short, named, holds, old, ?_⟩
      rw [replaceFile, made]
      simp only [renamed]

theorem writeFile_eq_error {s' : System} {e : PathError} (down : p.IsDownward)
    (failed : s.writeFile p bytes = (s', .error e)) :
    s.Extends s' ∧ ∃ cause, e = .refused cause := by
  have above := s.ensureDirectories_extends (p := p.parent)
  have systemic := s.ensureDirectories_isSystemic down.parent.nameable
  rw [writeFile] at failed
  split at failed
  · rename_i s₁ equal
    rw [equal] at above
    rcases s₁.replaceFile_cases bytes down with ⟨cause, refused'⟩ | ⟨_, _, _, _, _, _, _, _, done⟩
    · rw [refused'] at failed
      obtain ⟨rfl, same⟩ := Prod.mk.inj failed
      exact ⟨above, cause, (Except.error.inj same).symm⟩
    · rw [done] at failed
      cases (Prod.mk.inj failed).2
  · rw [failed] at above systemic
    exact ⟨above, systemic e rfl⟩

/-- A file that is written is seen at its place and can be read at its path; anywhere else no more
than directories are new. -/
theorem writeFile_eq_ok {s' : System} (down : p.IsDownward)
    (written : s.writeFile p bytes = (s', .ok ())) :
    s'.current = s.current ∧ accept p = .ok () ∧ (∀ n ∈ p.names, n.utf8ByteSize ≤ nameLimit)
      ∧ s'.tree.seen (s.placeOf p) = some (some bytes)
      ∧ ∃ s₁, s.Extends s₁ ∧ ∀ q, q ≠ s.placeOf p → s'.tree.seen q = s₁.tree.seen q := by
  have above := s.ensureDirectories_extends (p := p.parent)
  rw [writeFile] at written
  split at written
  case h_2 other =>
    rw [written] at other
    exact absurd rfl (other s')
  rename_i s₁ equal
  rw [equal] at above
  rcases s₁.replaceFile_cases bytes down with
    ⟨cause, failed⟩ | ⟨place, entries, accepted, located, short, named, holds, old, done⟩
  · rw [failed] at written
    cases (Prod.mk.inj written).2
  rw [done] at written
  obtain ⟨rfl, -⟩ := Prod.mk.inj written
  have names := Path.names_eq_of_name named
  have start : s₁.start p.parent = s₁.current := by rw [System.start, down.parent.relative]
  have followed : follow s₁.tree s₁.current p.parent.names = .ok place := by
    rw [locate, start] at located
    obtain ⟨_, -, followed⟩ := bind_eq_ok.mp located
    exact followed
  -- the way leads downwards only, so it ends at the place that its names spell out
  obtain ⟨rfl, fits⟩ := follow_downward down.parent.down followed
  have target : s.placeOf p = s₁.current ++ p.parent.names ++ [p.name] := by
    rw [placeOf, names, above.current, List.append_assoc]
  have bare : (Tree.file bytes).IsBare := fun _ _ => rfl
  have seen := Tree.seen_put holds bare old
  refine ⟨above.current, accepted, ?_, ?_, s₁, above, ?_⟩
  · intro n member
    rw [names, List.mem_append, List.mem_singleton] at member
    rcases member with member | rfl
    · exact fits n member
    · exact short
  · rw [target, seen, if_pos rfl]
    rfl
  · intro q other
    rw [target] at other
    rw [seen, if_neg other]

end Writing

end System

end ServiceCli.Files
