import Mathlib.Data.List.Forall2
import ServiceCli.Proofs.Data.Entries
import ServiceCli.Proofs.Data.JsonScalar

/-!
JSON text keeps its value: a value of null, truth values, whole numbers, texts, lists and mappings
by name is printed in every form, and the reader takes the text back to the value, entries in their
order. Main statement: `read_print?`.
-/

set_option autoImplicit false
set_option relaxedAutoImplicit false

namespace ServiceCli.Data

open ServiceCli.Number

/-- Whether JSON text keeps an indivisible value; a whole number may not be too long to be read. -/
def Scalar.isExact : Scalar → Bool
  | .null => true
  | .bool _ => true
  | .int i => (Nat.toDigits 10 i.natAbs).length ≤ digitLimit
  | .str _ => true
  | _ => false

mutual
/-- A value that JSON text keeps: its mappings have texts for keys, each once. -/
def Value.IsExact : Value → Prop
  | .atom a => a.isExact = true
  | .list items => ItemsExact items
  | .map entries => (entries.map Prod.fst).Nodup ∧ EntriesExact entries
  | _ => False
def ItemsExact : List Value → Prop
  | [] => True
  | v :: rest => v.IsExact ∧ ItemsExact rest
/-- Every entry has a text for its key and a value that JSON text keeps. -/
def EntriesExact : List (Key × Value) → Prop
  | [] => True
  | (k, v) :: rest => (∃ name, k = .str name) ∧ v.IsExact ∧ EntriesExact rest
end

theorem EntriesExact.of_forall {entries : Entries}
    (kept : ∀ entry ∈ entries, (∃ name, entry.1 = .str name) ∧ entry.2.IsExact) :
    EntriesExact entries := by
  induction entries with
  | nil => trivial
  | cons entry entries ih =>
    obtain ⟨named, own⟩ := kept entry List.mem_cons_self
    exact ⟨named, own, ih fun other member => kept other (List.mem_cons_of_mem _ member)⟩

end ServiceCli.Data

namespace ServiceCli.Json

open ServiceCli.Data ServiceCli.Literal ServiceCli.Number ServiceCli.Text
open Outcome (ok_bind)

section Spaces

variable {c : Char} {gap rest : List Char}

theorem skipSpace_append (blank : ∀ c ∈ gap, isSpace c = true) (solid : isSpace c = false) :
    skipSpace (gap ++ c :: rest) = c :: rest := by
  rw [skipSpace, List.dropWhile_append_of_pos blank, List.dropWhile_cons_of_neg (by simp [solid])]

theorem skipSpace_cons (solid : isSpace c = false) : skipSpace (c :: rest) = c :: rest := by
  rw [skipSpace, List.dropWhile_cons_of_neg (by simp [solid])]

theorem endsNumber_append (blank : ∀ c ∈ gap, isSpace c = true) (ends : endsNumber rest = true) :
    endsNumber (gap ++ rest) = true := by
  cases gap with
  | nil => exact ends
  | cons c gap =>
    have space := blank c List.mem_cons_self
    simp only [isSpace, Bool.or_eq_true, beq_iff_eq] at space
    rcases space with ((rfl | rfl) | rfl) | rfl <;> rfl

theorem breakAt_blank (form : Form) (depth : Nat) : ∀ c ∈ breakAt form depth, isSpace c = true := by
  intro c member
  rw [breakAt] at member
  split at member
  · exact absurd member (by simp)
  · rcases List.mem_cons.mp member with rfl | indent
    · rfl
    · rw [List.eq_of_mem_replicate indent]
      rfl

theorem separator_eq (form : Form) (depth : Nat) :
    ∃ gap, separator form depth = ',' :: gap ∧ ∀ c ∈ gap, isSpace c = true := by
  rw [separator]
  split
  · exact ⟨[' '], rfl, List.forall_mem_singleton.mpr rfl⟩
  · exact ⟨_, rfl, breakAt_blank form depth⟩

end Spaces

/-- Whether a value may begin with a character: it is no space, closes no list and marks no byte
order. -/
def beginsValue (c : Char) : Bool := !isSpace c && c != ']' && c != '\ufeff'

/-- A text that the reader takes for a value, whatever follows that does not carry a number on. -/
structure IsTextOf (text : List Char) (v : Value) : Prop where
  begins : ∃ c cs, text = c :: cs ∧ beginsValue c = true
  reads : ∀ {fuel : Nat} {rest : List Char}, 2 * text.length ≤ fuel + 1 →
    endsNumber rest = true → readValue fuel (text ++ rest) = .ok (v, rest)

/-- The text of an entry: its name in quotes, a colon and the text of its value. -/
def IsMemberText (text : List Char) (entry : Key × Value) : Prop :=
  ∃ asciiOnly name body, entry.1 = .str name
    ∧ text = quoteWith asciiOnly name.toList ++ [':', ' '] ++ body ∧ IsTextOf body entry.2

theorem IsTextOf.length_pos {text : List Char} {v : Value} (own : IsTextOf text v) :
    0 < text.length := by
  obtain ⟨c, cs, rfl, _⟩ := own.begins
  simp

theorem beginsValue_solid {c : Char} (begins : beginsValue c = true) :
    isSpace c = false ∧ c ≠ ']' ∧ c ≠ '\ufeff' := by
  simpa [beginsValue, and_assoc] using begins

section Items

variable {gap close rest cs next : List Char} {fuel : Nat} {v : Value} {vs : List Value}

theorem readItems_last (read : readValue fuel cs = .ok (v, close ++ ']' :: rest))
    (closeBlank : ∀ c ∈ close, isSpace c = true) :
    readItems (fuel + 1) cs = .ok (.list [v], rest) := by
  rw [readItems, read, ok_bind]
  simp only [skipSpace_append closeBlank (c := ']') (by decide)]
  rfl

theorem readItems_next (read : readValue fuel cs = .ok (v, ',' :: (gap ++ next)))
    (begins : skipSpace (gap ++ next) = next)
    (more : readItems fuel next = .ok (.list vs, rest)) :
    readItems (fuel + 1) cs = .ok (.list (v :: vs), rest) := by
  rw [readItems, read, ok_bind]
  simp only [skipSpace_cons (c := ',') (by decide), begins, more]
  rfl

theorem readItems_texts {texts : List (List Char)} {items : List Value}
    (each : List.Forall₂ IsTextOf texts items) (filled : texts ≠ [])
    (gapBlank : ∀ c ∈ gap, isSpace c = true)
    (closeBlank : ∀ c ∈ close, isSpace c = true)
    (enough : 2 * ((',' :: gap).intercalate texts).length ≤ fuel) :
    readItems fuel ((',' :: gap).intercalate texts ++ (close ++ ']' :: rest))
      = .ok (.list items, rest) := by
  induction each generalizing fuel with
  | nil => exact absurd rfl filled
  | @cons text v texts items own others ih =>
    have long := own.length_pos
    cases others with
    | nil =>
      rw [List.intercalate_singleton] at enough ⊢
      obtain ⟨fuel, rfl⟩ : ∃ m, fuel = m + 1 := ⟨fuel - 1, by omega⟩
      have ends : endsNumber (close ++ ']' :: rest) = true := endsNumber_append closeBlank rfl
      exact readItems_last (own.reads enough ends) closeBlank
    | @cons second w texts items following later =>
      obtain ⟨c, cs, spelt, begins⟩ := following.begins
      obtain ⟨tail, joined⟩ : ∃ tail, (',' :: gap).intercalate (second :: texts) = c :: tail := by
        cases texts <;> simp [List.intercalate_cons_cons, spelt]
      rw [List.intercalate_cons_cons] at enough ⊢
      simp only [List.length_append, List.length_cons] at enough
      obtain ⟨fuel, rfl⟩ : ∃ m, fuel = m + 1 := ⟨fuel - 1, by omega⟩
      have more : readItems fuel
          ((',' :: gap).intercalate (second :: texts) ++ (close ++ ']' :: rest))
          = .ok (.list (w :: items), rest) := ih (by simp) (by omega)
      rw [joined] at more ⊢
      simp only [List.append_assoc, List.cons_append] at more ⊢
      exact readItems_next (own.reads (by omega) rfl)
        (skipSpace_append gapBlank (beginsValue_solid begins).1) more

end Items

section Members

variable {gap close rest body after next : List Char} {fuel : Nat} {v w : Value}
  {done : Entries} {name : String} (asciiOnly : Bool)

theorem readMembers_entry (solid : ∃ c cs, body = c :: cs ∧ isSpace c = false)
    (read : readValue fuel (body ++ after) = .ok (v, after)) :
    readMembers (fuel + 1) done
        (quoteWith asciiOnly name.toList ++ [':', ' '] ++ body ++ after)
      = match skipSpace after with
        | '\x7d' :: tail => .ok (.map (done.put (.str name) v), tail)
        | ',' :: tail => readMembers fuel (done.put (.str name) v) (skipSpace tail)
        | other => .error ⟨.expectingComma, other.length⟩ := by
  obtain ⟨c, cs, spelt, solid⟩ := solid
  have begins : skipSpace (' ' :: (body ++ after)) = body ++ after := by
    rw [spelt, List.cons_append]
    change skipSpace ([' '] ++ c :: (cs ++ after)) = c :: (cs ++ after)
    exact skipSpace_append (List.forall_mem_singleton.mpr rfl) solid
  simp only [quoteWith, List.append_assoc, List.cons_append, List.nil_append]
  rw [readMembers, readString_quoted, ok_bind]
  simp only [skipSpace_cons (c := ':') (by decide), begins, read, ok_bind, String.ofList_toList]
  rfl

theorem readMembers_last (solid : ∃ c cs, body = c :: cs ∧ isSpace c = false)
    (read : readValue fuel (body ++ (close ++ '\x7d' :: rest))
      = .ok (v, close ++ '\x7d' :: rest))
    (closeBlank : ∀ c ∈ close, isSpace c = true) :
    readMembers (fuel + 1) done
        (quoteWith asciiOnly name.toList ++ [':', ' '] ++ body ++ (close ++ '\x7d' :: rest))
      = .ok (.map (done.put (.str name) v), rest) := by
  rw [readMembers_entry asciiOnly solid read]
  simp only [skipSpace_append closeBlank (c := '\x7d') (by decide)]

theorem readMembers_next (solid : ∃ c cs, body = c :: cs ∧ isSpace c = false)
    (read : readValue fuel (body ++ ',' :: (gap ++ next)) = .ok (v, ',' :: (gap ++ next)))
    (begins : skipSpace (gap ++ next) = next)
    (more : readMembers fuel (done.put (.str name) v) next = .ok (w, rest)) :
    readMembers (fuel + 1) done
        (quoteWith asciiOnly name.toList ++ [':', ' '] ++ body ++ ',' :: (gap ++ next))
      = .ok (w, rest) := by
  rw [readMembers_entry asciiOnly solid read]
  simp only [skipSpace_cons (c := ',') (by decide), begins, more]

theorem readMembers_texts {texts : List (List Char)} {entries : Entries}
    (each : List.Forall₂ IsMemberText texts entries) (filled : texts ≠ [])
    (differ : ((done ++ entries).map Prod.fst).Nodup)
    (gapBlank : ∀ c ∈ gap, isSpace c = true)
    (closeBlank : ∀ c ∈ close, isSpace c = true)
    (enough : 2 * ((',' :: gap).intercalate texts).length ≤ fuel) :
    readMembers fuel done ((',' :: gap).intercalate texts ++ (close ++ '\x7d' :: rest))
      = .ok (.map (done ++ entries), rest) := by
  induction each generalizing fuel done with
  | nil => exact absurd rfl filled
  | @cons text entry texts entries own others ih =>
    obtain ⟨k, v⟩ := entry
    obtain ⟨asciiOnly, name, body, rfl, rfl, own⟩ := own
    have long := own.length_pos
    have solid : ∃ c cs, body = c :: cs ∧ isSpace c = false := by
      obtain ⟨c, cs, spelt, begins⟩ := own.begins
      exact ⟨c, cs, spelt, (beginsValue_solid begins).1⟩
    have absent : ∀ entry ∈ done, entry.1 ≠ .str name := by
      intro entry member same
      rw [List.map_append, List.nodup_append] at differ
      exact differ.2.2 _ (List.mem_map_of_mem member) _ (by simp) same
    have put := Entries.put_of_absent absent v
    cases others with
    | nil =>
      rw [List.intercalate_singleton] at enough ⊢
      simp only [List.length_append] at enough
      obtain ⟨fuel, rfl⟩ : ∃ m, fuel = m + 1 := ⟨fuel - 1, by omega⟩
      have ends : endsNumber (close ++ '\x7d' :: rest) = true := endsNumber_append closeBlank rfl
      have read : readValue fuel (body ++ (close ++ '\x7d' :: rest)) = .ok (v, _) :=
        own.reads (by omega) ends
      rw [← put]
      exact readMembers_last asciiOnly solid read closeBlank
    | @cons second entry texts entries following later =>
      obtain ⟨tail, joined⟩ : ∃ tail, (',' :: gap).intercalate (second :: texts) = '"' :: tail := by
        obtain ⟨_, _, _, _, rfl, _⟩ := following
        cases texts <;> simp [List.intercalate_cons_cons, quoteWith]
      rw [List.intercalate_cons_cons] at enough ⊢
      simp only [List.length_append, List.length_cons] at enough
      obtain ⟨fuel, rfl⟩ : ∃ m, fuel = m + 1 := ⟨fuel - 1, by omega⟩
      have whole : done ++ (.str name, v) :: entry :: entries
          = done.put (.str name) v ++ entry :: entries := by
        rw [put, List.append_assoc, List.singleton_append]
      have more : readMembers fuel (done.put (.str name) v)
          ((',' :: gap).intercalate (second :: texts) ++ (close ++ '\x7d' :: rest))
          = .ok (.map (done ++ (.str name, v) :: entry :: entries), rest) := by
        rw [whole] at differ ⊢
        exact ih (by simp) differ (by omega)
      rw [joined] at more ⊢
      simp only [List.append_assoc, List.cons_append] at more ⊢
      have read : ∀ rest, readValue fuel (body ++ ',' :: rest) = .ok (v, ',' :: rest) :=
        fun rest => own.reads (by omega) rfl
      have step := readMembers_next asciiOnly solid (read _)
        (skipSpace_append gapBlank (by decide)) more
      simpa only [List.append_assoc, List.cons_append] using step

end Members

section Values

variable {form : Form} {depth : Nat}

theorem isTextOf_quoted (asciiOnly : Bool) (s : String) :
    IsTextOf (quoteWith asciiOnly s.toList) (.str s) where
  begins := ⟨'"', _, rfl, rfl⟩
  reads := by
    intro fuel rest enough _
    simp only [quoteWith, List.length_append, List.length_cons, List.append_assoc,
      List.cons_append, List.nil_append] at enough ⊢
    obtain ⟨fuel, rfl⟩ : ∃ m, fuel = m + 1 := ⟨fuel - 1, by omega⟩
    rw [readValue, readString_quoted, ok_bind]
    simp only [String.ofList_toList]
    rfl

theorem isTextOf_int {i : Int} (short : (Nat.toDigits 10 i.natAbs).length ≤ digitLimit) :
    IsTextOf (toString i).toList (.int i) := by
  have begins : ∃ c cs, (toString i).toList = c :: cs ∧ beginsValue c = true := by
    obtain ⟨d, ds, spelt, isDigit⟩ := exists_toDigits i.natAbs
    rw [toString_int_toList]
    split_ifs
    · have differs : ∀ c : Char, c.isDigit = false → d ≠ c := by
        rintro c other rfl
        exact absurd (isDigit.symm.trans other) (by decide)
      exact ⟨d, ds, spelt, by simp [beginsValue, isSpace, differs]⟩
    · exact ⟨'-', _, rfl, rfl⟩
  refine ⟨begins, ?_⟩
  intro fuel rest enough ends
  obtain ⟨c, cs, spelt, _⟩ := begins
  rw [spelt, List.length_cons] at enough
  obtain ⟨fuel, rfl⟩ : ∃ m, fuel = m + 1 := ⟨fuel - 1, by omega⟩
  exact readValue_int short ends

theorem isTextOf_null : IsTextOf "null".toList .null := by
  refine ⟨⟨'n', _, rfl, rfl⟩, ?_⟩
  intro fuel rest enough _
  obtain ⟨fuel, rfl⟩ : ∃ m, fuel = m + 1 := ⟨fuel - 1, by simp at enough; omega⟩
  rfl

theorem isTextOf_bool (b : Bool) : IsTextOf (if b then "true" else "false").toList (.bool b) := by
  cases b
  all_goals
    refine ⟨⟨_, _, rfl, rfl⟩, ?_⟩
    intro fuel rest enough _
    obtain ⟨fuel, rfl⟩ : ∃ m, fuel = m + 1 := ⟨fuel - 1, by simp at enough; omega⟩
    rfl

theorem printScalar_isTextOf {a : Scalar} (kept : a.isExact = true) :
    ∃ text, printScalar form a = some text ∧ IsTextOf text (.atom a) := by
  cases a with
  | null => exact ⟨_, rfl, isTextOf_null⟩
  | bool b => exact ⟨_, rfl, isTextOf_bool b⟩
  | int i => exact ⟨_, rfl, isTextOf_int (of_decide_eq_true kept)⟩
  | str s => exact ⟨_, rfl, isTextOf_quoted form.asciiOnly s⟩
  | float x => exact absurd kept (by simp [Scalar.isExact])
  | bytes bs => exact absurd kept (by simp [Scalar.isExact])
  | moment m => exact absurd kept (by simp [Scalar.isExact])

theorem bracket_cons (opening closing : Char) (text : List Char) (texts : List (List Char)) :
    bracket form depth opening closing (text :: texts)
      = opening :: (breakAt form (depth + 1)
        ++ ((separator form (depth + 1)).intercalate (text :: texts)
          ++ (breakAt form depth ++ [closing]))) := by
  simp [bracket]

variable {fuel : Nat} {c : Char} {cs tail : List Char} {v : Value} {rest : List Char}

theorem readValue_list (inside : skipSpace cs = c :: tail) (more : c ≠ ']')
    (read : readItems fuel (c :: tail) = .ok (v, rest)) :
    readValue (fuel + 1) ('[' :: cs) = .ok (v, rest) := by
  rw [readValue, inside]
  split
  · rename_i same
    exact absurd (List.cons.inj same).1 more
  · exact read

theorem readValue_map (inside : skipSpace cs = c :: tail) (more : c ≠ '\x7d')
    (read : readMembers fuel [] (c :: tail) = .ok (v, rest)) :
    readValue (fuel + 1) ('\x7b' :: cs) = .ok (v, rest) := by
  rw [readValue, inside]
  split
  · rename_i same
    exact absurd (List.cons.inj same).1 more
  · exact read

theorem isTextOf_list {texts : List (List Char)} {items : List Value}
    (each : List.Forall₂ IsTextOf texts items) :
    IsTextOf (bracket form depth '[' ']' texts) (.list items) := by
  refine ⟨by cases texts <;> exact ⟨'[', _, rfl, rfl⟩, ?_⟩
  intro fuel rest enough _
  cases each with
  | nil =>
    obtain ⟨fuel, rfl⟩ : ∃ m, fuel = m + 1 := ⟨fuel - 1, by simp [bracket] at enough; omega⟩
    change readValue (fuel + 1) ('[' :: ']' :: rest) = _
    rw [readValue]
    rfl
  | @cons text v texts items own others =>
    obtain ⟨gap, separated, gapBlank⟩ := separator_eq form (depth + 1)
    obtain ⟨c, cs, spelt, begins⟩ := own.begins
    obtain ⟨solid, closes, _⟩ := beginsValue_solid begins
    obtain ⟨tail, joined⟩ : ∃ tail, (',' :: gap).intercalate (text :: texts) = c :: tail := by
      cases texts <;> simp [List.intercalate_cons_cons, spelt]
    rw [bracket_cons, separated] at enough ⊢
    simp only [List.length_append, List.length_cons] at enough
    obtain ⟨fuel, rfl⟩ : ∃ m, fuel = m + 1 := ⟨fuel - 1, by omega⟩
    have read : readItems fuel ((',' :: gap).intercalate (text :: texts)
        ++ (breakAt form depth ++ ']' :: rest)) = .ok (.list (v :: items), rest) :=
      readItems_texts (.cons own others) (by simp) gapBlank (breakAt_blank form depth)
        (by omega)
    rw [joined] at read ⊢
    simp only [List.append_assoc, List.cons_append, List.nil_append] at read ⊢
    exact readValue_list (skipSpace_append (breakAt_blank form _) solid) closes read

theorem isTextOf_map {texts : List (List Char)} {entries : Entries}
    (each : List.Forall₂ IsMemberText texts entries) (differ : (entries.map Prod.fst).Nodup) :
    IsTextOf (bracket form depth '\x7b' '\x7d' texts) (.map entries) := by
  refine ⟨by cases texts <;> exact ⟨'\x7b', _, rfl, rfl⟩, ?_⟩
  intro fuel rest enough _
  cases each with
  | nil =>
    obtain ⟨fuel, rfl⟩ : ∃ m, fuel = m + 1 := ⟨fuel - 1, by simp [bracket] at enough; omega⟩
    change readValue (fuel + 1) ('\x7b' :: '\x7d' :: rest) = _
    rw [readValue]
    rfl
  | @cons text entry texts entries own others =>
    obtain ⟨gap, separated, gapBlank⟩ := separator_eq form (depth + 1)
    obtain ⟨tail, joined⟩ : ∃ tail, (',' :: gap).intercalate (text :: texts) = '"' :: tail := by
      obtain ⟨_, _, _, _, rfl, _⟩ := own
      cases texts <;> simp [List.intercalate_cons_cons, quoteWith]
    rw [bracket_cons, separated] at enough ⊢
    simp only [List.length_append, List.length_cons] at enough
    obtain ⟨fuel, rfl⟩ : ∃ m, fuel = m + 1 := ⟨fuel - 1, by omega⟩
    have read : readMembers fuel [] ((',' :: gap).intercalate (text :: texts)
        ++ (breakAt form depth ++ '\x7d' :: rest)) = .ok (.map (entry :: entries), rest) :=
      readMembers_texts (.cons own others) (by simp) differ gapBlank
        (breakAt_blank form depth) (by omega)
    rw [joined] at read ⊢
    simp only [List.append_assoc, List.cons_append, List.nil_append] at read ⊢
    exact readValue_map (skipSpace_append (breakAt_blank form _) (by decide)) (by decide)
      read

mutual
/-- A value that JSON text keeps is printed as a text of it, in every form. -/
theorem printValue_isTextOf (form : Form) : ∀ (v : Value) (depth : Nat), v.IsExact →
    ∃ text, printValue form depth v = some text ∧ IsTextOf text v
  | .atom a, _, kept => printScalar_isTextOf kept
  | .list items, depth, kept => by
    obtain ⟨texts, printed, each⟩ := printItems_areTextsOf form items (depth + 1) kept
    exact ⟨_, by rw [printValue, printed]; rfl, isTextOf_list each⟩
  | .map entries, depth, ⟨differ, kept⟩ => by
    obtain ⟨texts, printed, each⟩ := printMembers_areTextsOf form entries (depth + 1) kept
    exact ⟨_, by rw [printValue, printed]; rfl, isTextOf_map each differ⟩
  | .tuple _, _, kept => kept.elim
  | .set _, _, kept => kept.elim
  | .stream _ _ _, _, kept => kept.elim
  | .record _, _, kept => kept.elim
  | .report _, _, kept => kept.elim
  | .account _ _, _, kept => kept.elim
  | .opaqueText _ _, _, kept => kept.elim
theorem printItems_areTextsOf (form : Form) : ∀ (items : List Value) (depth : Nat),
    ItemsExact items →
      ∃ texts, printItems form depth items = some texts ∧ List.Forall₂ IsTextOf texts items
  | [], _, _ => ⟨[], rfl, .nil⟩
  | v :: items, depth, ⟨first, others⟩ => by
    obtain ⟨text, printed, own⟩ := printValue_isTextOf form v depth first
    obtain ⟨texts, following, each⟩ := printItems_areTextsOf form items depth others
    exact ⟨text :: texts, by rw [printItems, printed, following]; rfl, .cons own each⟩
theorem printMembers_areTextsOf (form : Form) : ∀ (entries : List (Key × Value)) (depth : Nat),
    EntriesExact entries →
      ∃ texts, printMembers form depth entries = some texts
        ∧ List.Forall₂ IsMemberText texts entries
  | [], _, _ => ⟨[], rfl, .nil⟩
  | (k, v) :: entries, depth, ⟨⟨name, key⟩, first, others⟩ => by
    obtain ⟨text, printed, own⟩ := printValue_isTextOf form v depth first
    obtain ⟨texts, following, each⟩ := printMembers_areTextsOf form entries depth others
    subst key
    exact ⟨_, by rw [printMembers, printed, following]; rfl,
      .cons ⟨form.asciiOnly, name, text, rfl, rfl, own⟩ each⟩
end

theorem IsTextOf.readList {text : List Char} {v : Value} (own : IsTextOf text v) :
    Json.readList text = .ok v := by
  obtain ⟨c, cs, spelt, begins⟩ := own.begins
  obtain ⟨solid, _, noMark⟩ := beginsValue_solid begins
  have enough : 2 * text.length ≤ fuelFor text + 1 := by rw [fuelFor]; omega
  have whole : readValue (fuelFor text) (text ++ []) = .ok (v, []) :=
    own.reads enough rfl
  rw [List.append_nil] at whole
  have start : skipSpace text = text := by rw [spelt, skipSpace_cons solid]
  rw [Json.readList, start, whole]
  · rfl
  · intro tail same
    rw [spelt] at same
    exact noMark (List.cons.inj same).1

/-- A value that JSON text keeps has a text in every form, and the text is read as the value. -/
theorem read_print? {v : Value} (kept : v.IsExact) :
    ∃ text, print? form v = some text ∧ read text = .ok v := by
  obtain ⟨cs, printed, own⟩ := printValue_isTextOf form v 0 kept
  refine ⟨String.ofList cs, by rw [print?, printed]; rfl, ?_⟩
  rw [read, String.toList_ofList]
  exact own.readList

end Values

end ServiceCli.Json
