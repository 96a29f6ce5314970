import ServiceCli.Files.System
import ServiceCli.Files.Tree
import ServiceCli.Proofs.Text.Character
import ServiceCli.Proofs.Unused

set_option autoImplicit false
set_option relaxedAutoImplicit false

namespace ServiceCli.Files.Tree

/-- The bytes of a file; a directory has none. -/
def content? : Tree → Option (List UInt8)
  | .file bytes => some bytes
  | .directory _ => none

/-- What is seen at a place: nothing, or an entry with its bytes if it is a file. -/
def seen (t : Tree) (place : Place) : Option (Option (List UInt8)) := (t.get? place).map content?

/-- Nothing is below this. -/
def IsBare (t : Tree) : Prop := ∀ name place, t.get? (name :: place) = none

section Entries

variable {entries : List (String × Tree)} {name other : String} {t : Tree}

theorem child?_eq_none (absent : name ∉ entries.map Prod.fst) : child? entries name = none := by
  induction entries with
  | nil => rfl
  | cons e entries ih =>
    obtain ⟨n, u⟩ := e
    simp only [List.map_cons, List.mem_cons, not_or] at absent
    rw [child?, if_neg (Ne.symm absent.1), ih absent.2]

theorem child?_putChild_same : child? (putChild entries name t) name = some t := by
  induction entries with
  | nil => simp [putChild, child?]
  | cons e entries ih =>
    obtain ⟨n, u⟩ := e
    by_cases own : n = name <;> simp [putChild, child?, own, ih]

theorem child?_putChild_of_ne (apart : other ≠ name) :
    child? (putChild entries name t) other = child? entries other := by
  induction entries with
  | nil => simp [putChild, child?, apart.symm]
  | cons e entries ih =>
    obtain ⟨n, u⟩ := e
    by_cases own : n = name
    · subst own
      simp [putChild, child?, apart.symm]
    · rw [putChild, if_neg own, child?, child?, ih]

theorem putChild_self (found : child? entries name = some t) :
    putChild entries name t = entries := by
  induction entries with
  | nil => cases found
  | cons e entries ih =>
    obtain ⟨n, u⟩ := e
    by_cases own : n = name
    · subst own
      obtain rfl : u = t := by simpa [child?] using found
      simp [putChild]
    · simp only [child?, own, if_false] at found
      simp [putChild, own, ih found]

theorem putChild_putChild (u : Tree) :
    putChild (putChild entries name t) name u = putChild entries name u := by
  induction entries with
  | nil => simp [putChild]
  | cons e entries ih =>
    obtain ⟨n, v⟩ := e
    by_cases own : n = name <;> simp [putChild, own, ih]

theorem removeChild_putChild (absent : child? entries name = none) :
    removeChild (putChild entries name t) name = entries := by
  induction entries with
  | nil => simp [putChild, removeChild]
  | cons e entries ih =>
    obtain ⟨n, u⟩ := e
    by_cases own : n = name
    · simp [child?, own] at absent
    · simp only [child?, own, if_false] at absent
      simp [putChild, removeChild, own, ih absent]

end Entries

theorem get?_append (t : Tree) (place below : Place) :
    t.get? (place ++ below) = (t.get? place).bind (·.get? below) := by
  induction place generalizing t with
  | nil => simp [get?]
  | cons first place ih =>
    cases t with
    | file bytes => rfl
    | directory entries =>
      rw [List.cons_append, get?, get?]
      cases child? entries first with
      | none => rfl
      | some u => exact ih u

theorem child?_of_get? {t : Tree} {place : Place} {entries : List (String × Tree)}
    (holds : t.get? place = some (.directory entries)) (name : String) :
    t.get? (place ++ [name]) = child? entries name := by
  rw [get?_append, holds, Option.bind_some, get?]
  cases child? entries name with
  | none => rfl
  | some u => cases u <;> rfl

section Put

variable {t : Tree} {place : Place} {entries : List (String × Tree)} {name : String}

theorem get?_cons {first : String} {entries' : List (String × Tree)}
    (holds : (directory entries').get? (first :: place) = some t) :
    ∃ u, child? entries' first = some u ∧ u.get? place = some t := by
  rw [get?] at holds
  cases found : child? entries' first with
  | none => rw [found] at holds; cases holds
  | some u => exact ⟨u, rfl, by rw [found] at holds; exact holds⟩

theorem get?_put (holds : t.get? place = some (.directory entries)) (new : Tree) :
    (t.put (place ++ [name]) new).get? place = some (.directory (putChild entries name new)) := by
  induction place generalizing t with
  | nil =>
    obtain rfl := Option.some.inj holds
    rfl
  | cons first place ih =>
    cases t with
    | file bytes => cases holds
    | directory above =>
      obtain ⟨u, found, below⟩ := get?_cons holds
      rw [List.cons_append, put, get?, child?_putChild_same, found]
      exact ih below

/-- A new entry that is removed again leaves the tree as it was. -/
theorem remove_put (holds : t.get? place = some (.directory entries))
    (absent : child? entries name = none) (new : Tree) :
    (t.put (place ++ [name]) new).remove place name = t := by
  induction place generalizing t with
  | nil =>
    obtain rfl := Option.some.inj holds
    rw [List.nil_append, put, put, remove, removeChild_putChild absent]
  | cons first place ih =>
    cases t with
    | file bytes => cases holds
    | directory above =>
      obtain ⟨u, found, below⟩ := get?_cons holds
      rw [List.cons_append, put, remove, child?_putChild_same, found, Option.getD_some]
      simp only
      rw [ih below, putChild_putChild, putChild_self found]

/-- A bare entry that takes the place of a bare one, or of none, is seen at its own place; nothing
else changes. -/
theorem seen_put {new : Tree} (holds : t.get? place = some (.directory entries))
    (bare : new.IsBare) (old : ∀ u, child? entries name = some u → u.IsBare) (q : Place) :
    (t.put (place ++ [name]) new).seen q
      = if q = place ++ [name] then some new.content? else t.seen q := by
  induction place generalizing t q with
  | nil =>
    obtain rfl := Option.some.inj holds
    cases q with
    | nil => simp [put, seen, get?, content?]
    | cons m q =>
      by_cases own : m = name
      · subst own
        cases q with
        | nil => simp [put, seen, get?, child?_putChild_same]
        | cons n q =>
          have below : (directory entries).get? (m :: n :: q) = none := by
            rw [get?]
            cases found : child? entries m with
            | none => rfl
            | some u => exact old u found n q
          have above : ((directory entries).put [m] new).get? (m :: n :: q) = none := by
            rw [put, get?, child?_putChild_same]
            exact bare n q
          rw [List.nil_append, seen, above, seen, below]
          simp
      · simp [put, seen, get?, child?_putChild_of_ne own, own]
  | cons first place ih =>
    cases t with
    | file bytes => cases holds
    | directory above =>
      obtain ⟨u, found, below⟩ := get?_cons holds
      rw [List.cons_append, put, found, Option.getD_some]
      cases q with
      | nil => simp [seen, get?, content?]
      | cons m q =>
        by_cases own : m = first
        · subst own
          have inner := ih below q
          simp only [seen, get?, child?_putChild_same, found, List.cons.injEq, true_and] at inner ⊢
          exact inner
        · simp [seen, get?, child?_putChild_of_ne own, own]

end Put

end ServiceCli.Files.Tree

namespace ServiceCli.Files.System

private theorem ofDigitChars_zeros (k : Nat) (digits : List Char) :
    Nat.ofDigitChars 10 (List.replicate k '0' ++ digits) 0 = Nat.ofDigitChars 10 digits 0 := by
  induction k with
  | zero => rfl
  | succ k ih =>
    rw [List.replicate_succ, List.cons_append, Nat.ofDigitChars_cons]
    exact ih

private theorem temporaryName_toList (name : String) (attempt : Nat) : ∃ zeros,
    (temporaryName name attempt).toList = '.' :: name.toList ++ '.' ::
      (List.replicate zeros '0' ++ Nat.toDigits 10 attempt ++ ".tmp".toList) := by
  refine ⟨8 - (toString attempt).length, ?_⟩
  simp [temporaryName, toString, Nat.repr, Text.pushn_toList]

theorem temporaryName_injective (name : String) : Function.Injective (temporaryName name) := by
  intro i j same
  obtain ⟨zeros, spelt⟩ := temporaryName_toList name i
  obtain ⟨zeros', spelt'⟩ := temporaryName_toList name j
  have chars := congrArg String.toList same
  rw [spelt, spelt'] at chars
  have tails := (List.cons.inj (List.append_cancel_left chars)).2
  have numbers := congrArg (Nat.ofDigitChars 10 · 0) (List.append_cancel_right tails)
  simpa only [ofDigitChars_zeros, Nat.ofDigitChars_ten_toDigits] using numbers

theorem freeTemporaryWithin_free {entries : List (String × Tree)} {name : String} {k fuel : Nat}
    (enough : k ≤ fuel) (attempt : Nat)
    (free : Tree.child? entries (temporaryName name (attempt + k)) = none) :
    Tree.child? entries (freeTemporaryWithin entries name fuel attempt) = none := by
  induction fuel generalizing k attempt with
  | zero =>
    obtain rfl : k = 0 := by omega
    exact free
  | succ fuel ih =>
    rw [freeTemporaryWithin]
    split
    · rename_i taken
      cases k with
      | zero =>
        rw [Nat.add_zero] at free
        rw [free] at taken
        cases taken
      | succ k =>
        refine ih (k := k) (by omega) (attempt + 1) ?_
        rwa [show attempt + 1 + k = attempt + (k + 1) by omega]
    · rename_i untaken
      simpa using untaken

theorem freeTemporary_free (entries : List (String × Tree)) (name : String) :
    Tree.child? entries (freeTemporary entries name) = none := by
  obtain ⟨k, few, unused⟩ :=
    exists_unused (temporaryName_injective name) (entries.map Prod.fst) 0
  have free : Tree.child? entries (temporaryName name (0 + k)) = none :=
    Tree.child?_eq_none unused
  rw [List.length_map] at few
  exact freeTemporaryWithin_free few 0 free

end ServiceCli.Files.System
