import ServiceCli.Proofs.Files.Tree
import ServiceCli.Proofs.Outcome

/-!
Requests to the file system that go no further than to make directories. A system extends another if
all that was seen before is still seen, and what is new is a directory. A path that can be named is
refused only for reasons that the system gives.
-/

set_option autoImplicit false
set_option relaxedAutoImplicit false

namespace ServiceCli.Files

open Outcome (bind_eq_ok)

/-- A request that fails is refused by the system. -/
def Answer.IsSystemic {α : Type} (a : Answer α) : Prop :=
  ∀ e, a = .error e → ∃ cause, e = .refused cause

namespace Answer.IsSystemic

variable {α β : Type}

theorem ok (a : α) : IsSystemic (.ok a : Answer α) := nofun

theorem refused (cause : SystemError) : IsSystemic (Files.refused cause : Answer α) := by
  intro e failed
  exact ⟨cause, (Except.error.inj failed).symm⟩

theorem bind {a : Answer α} {f : α → Answer β} (first : a.IsSystemic)
    (next : ∀ x, a = .ok x → (f x).IsSystemic) : (a >>= f).IsSystemic := by
  cases a with
  | error e =>
    intro e' failed
    obtain rfl := Except.error.inj failed
    exact first e rfl
  | ok x => exact next x rfl

end Answer.IsSystemic

theorem Path.isUnnameable_eq_false {p : Path} :
    p.isUnnameable = false ↔ ∀ n ∈ p.names, n.toList.contains (Char.ofNat 0) = false := by
  simp [Path.isUnnameable]

/-- A place shows afterwards what it showed before, or a directory where nothing was. -/
def KeptOrMade (before after : Option (Option (List UInt8))) : Prop :=
  after = before ∨ (before = none ∧ after = some none)

section KeptOrMade

variable {first second third : Option (Option (List UInt8))}

theorem KeptOrMade.trans (one : KeptOrMade first second) (other : KeptOrMade second third) :
    KeptOrMade first third := by
  rcases one with rfl | ⟨rfl, rfl⟩
  · exact other
  · rcases other with rfl | ⟨absent, -⟩
    · exact .inr ⟨rfl, rfl⟩
    · cases absent

theorem KeptOrMade.of_some {content : Option (List UInt8)}
    (kept : KeptOrMade (some content) second) : second = some content := by
  rcases kept with rfl | ⟨absent, -⟩
  · rfl
  · cases absent

theorem KeptOrMade.join (kept : KeptOrMade first second) : second.join = first.join := by
  rcases kept with rfl | ⟨rfl, rfl⟩ <;> rfl

end KeptOrMade

namespace System

/-- All that is seen of the first system is seen of the second, and only directories are new. -/
structure Extends (s s' : System) : Prop where
  current : s'.current = s.current
  seen : ∀ place, KeptOrMade (s.tree.seen place) (s'.tree.seen place)

theorem Extends.refl (s : System) : s.Extends s := ⟨rfl, fun _ => .inl rfl⟩

theorem Extends.trans {s₁ s₂ s₃ : System} (first : s₁.Extends s₂) (second : s₂.Extends s₃) :
    s₁.Extends s₃ :=
  ⟨second.current.trans first.current, fun q => (first.seen q).trans (second.seen q)⟩

section Requests

variable (s : System) {p : Path}

theorem accept_isSystemic (nameable : p.isUnnameable = false) : (accept p).IsSystemic := by
  simp only [accept, nameable, Bool.false_eq_true, if_false]
  split
  · exact .refused _
  · exact .ok _

theorem follow_isSystemic (tree : Tree) (place : Place) (names : List String) :
    (follow tree place names).IsSystemic := by
  induction names generalizing place with
  | nil => exact .ok _
  | cons name names ih =>
    rw [follow]
    split
    · split
      · exact ih _
      · split
        · exact .refused _
        · split
          · exact ih _
          · exact .refused _
    · exact .refused _
    · exact .refused _

theorem locate_isSystemic (nameable : p.isUnnameable = false) : (s.locate p).IsSystemic :=
  (accept_isSystemic nameable).bind fun _ _ => follow_isSystemic _ _ _

theorem find_isSystemic (nameable : p.isUnnameable = false) : (s.find p).IsSystemic := by
  refine (s.locate_isSystemic nameable).bind fun place _ => ?_
  split
  · exact .ok _
  · exact .refused _

theorem isDirectory_isSystemic (nameable : p.isUnnameable = false) :
    (s.isDirectory p).IsSystemic := by
  have found := s.find_isSystemic nameable
  intro e failed
  rw [isDirectory, ask.eq_def] at failed
  split at failed
  case h_1 => cases failed
  case h_2 => cases failed
  case h_3 => cases failed
  case h_4 => cases failed
  case h_5 missing =>
    obtain rfl := Except.error.inj failed
    exact found _ missing

theorem locateNew_isSystemic (nameable : p.isUnnameable = false) :
    (s.locateNew p).IsSystemic := by
  refine (accept_isSystemic nameable).bind fun _ _ => ?_
  split
  · exact .ok _
  · refine (follow_isSystemic _ _ _).bind fun place _ => ?_
    split
    · split
      · exact .ok _
      · split
        · exact .refused _
        · split
          · exact .ok _
          · exact .ok _
    · exact .refused _
    · exact .refused _

theorem locateNew_eq_some {place : Place} {name : String}
    (located : s.locateNew p = .ok (some (place, name))) :
    ∃ entries, s.tree.get? place = some (.directory entries)
      ∧ Tree.child? entries name = none := by
  rw [locateNew] at located
  obtain ⟨_, -, located⟩ := bind_eq_ok.mp located
  split at located
  case h_1 => cases located
  case h_2 =>
    obtain ⟨place, -, located⟩ := bind_eq_ok.mp located
    split at located
    case h_2 => cases located
    case h_3 => cases located
    case h_1 entries holds =>
      -- the name is not that of the directory above, not too long and not taken
      split at located
      · cases located
      · split at located
        · cases located
        · split at located
          · cases located
          · rename_i untaken
            obtain ⟨rfl, rfl⟩ := Prod.mk.inj (Option.some.inj (Except.ok.inj located))
            exact ⟨entries, holds, by simpa using untaken⟩

theorem makeDirectory_isSystemic (nameable : p.isUnnameable = false) :
    (s.makeDirectory p).IsSystemic := by
  refine (s.locateNew_isSystemic nameable).bind fun where_ _ => ?_
  split
  · exact .ok _
  · exact .refused _

theorem makeDirectory_extends {s' : System} (made : s.makeDirectory p = .ok s') : s.Extends s' := by
  rw [makeDirectory] at made
  obtain ⟨found, located, made⟩ := bind_eq_ok.mp made
  cases found with
  | none => cases made
  | some found =>
    obtain ⟨place, name⟩ := found
    obtain rfl := Except.ok.inj made
    obtain ⟨entries, holds, absent⟩ := s.locateNew_eq_some located
    have bare : Tree.empty.IsBare := fun _ _ => rfl
    have old : ∀ u, Tree.child? entries name = some u → u.IsBare := by
      intro u found
      rw [absent] at found
      cases found
    refine ⟨rfl, fun q => ?_⟩
    rw [Tree.seen_put holds bare old q]
    split
    · rename_i own
      refine .inr ⟨?_, rfl⟩
      rw [own, Tree.seen, Tree.child?_of_get? holds, absent]
      rfl
    · exact .inl rfl

theorem ensureDirectory_extends : s.Extends (s.ensureDirectory p).1 := by
  rw [ensureDirectory]
  split
  · rename_i made
    exact s.makeDirectory_extends made
  · exact .refl s
  · exact .refl s
  · split <;> exact .refl s

theorem ensureDirectory_isSystemic (nameable : p.isUnnameable = false) :
    (s.ensureDirectory p).2.IsSystemic := by
  have made := s.makeDirectory_isSystemic nameable
  rw [ensureDirectory]
  split
  case h_1 => exact .ok _
  case h_2 failed =>
    obtain ⟨cause, equal⟩ := made _ failed
    cases equal
  case h_3 => exact .refused _
  case h_4 e _ _ failed =>
    split
    · exact .ok _
    · intro e' equal
      obtain rfl := Except.error.inj equal
      exact made e failed
    · rename_i asked
      intro e' equal
      obtain rfl := Except.error.inj equal
      exact s.isDirectory_isSystemic nameable _ asked

theorem ensureNames_extends (anchor : Anchor) (names : List String) :
    s.Extends (s.ensureNames anchor names).1 := by
  induction names generalizing s with
  | nil => exact s.ensureDirectory_extends
  | cons name above ih =>
    -- where the directory above is missing, it is made first and this one is tried again
    have first := s.ensureDirectory_extends (p := ⟨anchor, (name :: above).reverse⟩)
    rw [ensureNames]
    split
    · rename_i s₁ equal
      rw [equal] at first
      have second := ih s₁
      split
      · rename_i s₂ equal₂
        rw [equal₂] at second
        exact (first.trans second).trans s₂.ensureDirectory_extends
      · exact first.trans second
    · exact first

theorem ensureNames_isSystemic (anchor : Anchor) (names : List String)
    (nameable : Path.isUnnameable ⟨anchor, names.reverse⟩ = false) :
    (s.ensureNames anchor names).2.IsSystemic := by
  induction names generalizing s with
  | nil => exact s.ensureDirectory_isSystemic nameable
  | cons name above ih =>
    rw [ensureNames]
    split
    · rename_i s₁ _
      have upper : Path.isUnnameable ⟨anchor, above.reverse⟩ = false := by
        rw [Path.isUnnameable_eq_false] at nameable ⊢
        intro n member
        exact nameable n (by simp [List.mem_reverse.mp member])
      have inner := ih s₁ upper
      split
      · rename_i s₂ _
        exact s₂.ensureDirectory_isSystemic nameable
      · exact inner
    · exact s.ensureDirectory_isSystemic nameable

theorem ensureDirectories_extends : s.Extends (s.ensureDirectories p).1 :=
  s.ensureNames_extends p.anchor p.names.reverse

theorem ensureDirectories_isSystemic (nameable : p.isUnnameable = false) :
    (s.ensureDirectories p).2.IsSystemic := by
  refine s.ensureNames_isSystemic p.anchor p.names.reverse ?_
  rwa [List.reverse_reverse]

end Requests

end System

end ServiceCli.Files
