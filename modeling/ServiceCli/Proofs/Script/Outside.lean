import ServiceCli.Proofs.Script.Denotation

/-!
Source outside its literals. A reader goes over a source character by character and stands in code,
in a literal or in a comment; of a literal only a mark is left where it begins. A literal ends on
its line. Main statement: the literal of any text, met in code, leaves its mark and the reader in
code.
-/

set_option autoImplicit false
set_option relaxedAutoImplicit false

namespace ServiceCli.Script

open ServiceCli.Text

/-- Where a reader of source stands: in code, in a literal, after a backslash in one, or in a
comment. -/
inductive Stand where
  | code
  | inside (quote : Char)
  | escaped (quote : Char)
  | comment
  deriving DecidableEq, Repr

namespace Stand

/-- Where the reader stands after a character. Every line is begun in code. -/
def next (stand : Stand) (c : Char) : Stand :=
  if c = '\n' then .code
  else match stand with
    | .code => if isQuote c then .inside c else if c = '#' then .comment else .code
    | .inside quote =>
      if c = quote then .code else if c = '\\' then .escaped quote else .inside quote
    | .escaped quote => .inside quote
    | .comment => .comment

/-- What is left of a character: every line break, code and comments, and a mark where a literal
begins, with whichever quote. -/
def left (stand : Stand) (c : Char) : List Char :=
  if c = '\n' then [c]
  else match stand with
    | .code => if isQuote c then ['"'] else [c]
    | .inside _ => []
    | .escaped _ => []
    | .comment => [c]

def after (stand : Stand) (cs : List Char) : Stand := cs.foldl next stand

def leftOf (stand : Stand) : List Char → List Char
  | [] => []
  | c :: cs => stand.left c ++ (stand.next c).leftOf cs

variable (stand : Stand) (first second : List Char)

theorem after_append : stand.after (first ++ second) = (stand.after first).after second :=
  List.foldl_append

theorem leftOf_append :
    stand.leftOf (first ++ second) = stand.leftOf first ++ (stand.after first).leftOf second := by
  induction first generalizing stand with
  | nil => rfl
  | cons c first ih =>
    rw [List.cons_append, leftOf, leftOf, ih, List.append_assoc]
    rfl

theorem count_leftOf (cs : List Char) : (stand.leftOf cs).count '\n' = cs.count '\n' := by
  induction cs generalizing stand with
  | nil => rfl
  | cons c cs ih =>
    rw [leftOf, List.count_append, ih]
    by_cases breaks : c = '\n'
    · simp [breaks, left, Nat.add_comm]
    · have none : (stand.left c).count '\n' = 0 := by
        rw [List.count_eq_zero]
        cases stand with
        | code => cases quotes : isQuote c <;> simp [left, breaks, quotes, Ne.symm breaks]
        | inside q => simp [left, breaks]
        | escaped q => simp [left, breaks]
        | comment => simp [left, breaks, Ne.symm breaks]
      rw [none, Nat.zero_add, List.count_cons_of_ne breaks]

end Stand

def outside (source : String) : String := String.ofList (Stand.code.leftOf source.toList)

example : outside "x = f('a#', \"'\") # 'b'" = "x = f(\", \") # 'b'" := by decide

section Inside

variable {q c : Char}

/-- Characters that belong to a literal which began before them and ends after them. -/
def IsInner (q : Char) (cs : List Char) : Prop :=
  Stand.after (.inside q) cs = .inside q ∧ Stand.leftOf (.inside q) cs = []

theorem IsInner.append {cs ds : List Char} (inner : IsInner q cs) (also : IsInner q ds) :
    IsInner q (cs ++ ds) := by
  rw [IsInner, Stand.after_append, Stand.leftOf_append, inner.1, inner.2]
  exact also

theorem isInner_of_plain (inside : c ≠ q) (plain : c ≠ '\\') (whole : c ≠ '\n') :
    IsInner q [c] := by
  simp [IsInner, Stand.after, Stand.leftOf, Stand.next, Stand.left, inside, plain, whole]

theorem isInner_of_escape (open_ : q ≠ '\\') (whole : c ≠ '\n') : IsInner q ['\\', c] := by
  simp [IsInner, Stand.after, Stand.leftOf, Stand.next, Stand.left, open_.symm, whole]

theorem isInner_hexDigits (quotes : isQuote q = true) (width n : Nat) :
    IsInner q (Literal.hexDigits width n) := by
  have digit : ∀ d < 16, isQuote (Literal.hexDigit d) = false ∧ Literal.hexDigit d ≠ '\\' ∧
      Literal.hexDigit d ≠ '\n' := by decide
  induction width generalizing n with
  | zero => exact ⟨rfl, rfl⟩
  | succ width ih =>
    obtain ⟨inside, plain, whole⟩ := digit (n % 16) (Nat.mod_lt n (by decide))
    refine (ih (n / 16)).append (isInner_of_plain ?_ plain whole)
    rintro rfl
    exact absurd quotes (by simp [inside])

theorem isInner_escapeChar (quotes : isQuote q = true) (c : Char) :
    IsInner q (Literal.escapeChar q c) := by
  have either : q = '"' ∨ q = '\'' := by simpa [isQuote] using quotes
  have notBackslash : q ≠ '\\' := by rcases either with rfl | rfl <;> decide
  have notLine : q ≠ '\n' := by rcases either with rfl | rfl <;> decide
  have letters : ∀ p ∈ Literal.ownLetters, p.2 ≠ '\n' := by decide
  have counted : ∀ p ∈ Literal.numberLetters, p.1 ≠ '\n' := by decide
  have written := Literal.escapeChar_written q c
  generalize Literal.escapeChar q c = text at written
  cases written with
  | itself same =>
    have whole : c ≠ '\n' := by
      rcases same with rfl | rfl
      · exact notLine
      · decide
    exact isInner_of_escape notBackslash whole
  | lettered own => exact isInner_of_escape notBackslash (letters _ own)
  | plain inside unmarked visible =>
    refine isInner_of_plain inside unmarked ?_
    rintro rfl
    exact absurd visible (by decide)
  | numbered among =>
    exact (isInner_of_escape notBackslash (counted _ among)).append (isInner_hexDigits quotes _ _)

end Inside

section Literals

/-- A literal that ends where its quote comes again leaves a mark, and the reader in code. -/
theorem leftOf_literal {q : Char} (quotes : isQuote q = true) {cs : List Char}
    (inner : IsInner q cs) : Stand.code.after (q :: cs ++ [q]) = .code ∧
      Stand.code.leftOf (q :: cs ++ [q]) = ['"'] := by
  have whole : q ≠ '\n' := by
    rintro rfl
    exact absurd quotes (by decide)
  have begun : Stand.code.after [q] = .inside q ∧ Stand.code.leftOf [q] = ['"'] := by
    simp [Stand.after, Stand.leftOf, Stand.next, Stand.left, whole, quotes]
  have ended : (Stand.inside q).after [q] = .code ∧ (Stand.inside q).leftOf [q] = [] := by
    simp [Stand.after, Stand.leftOf, Stand.next, Stand.left, whole]
  have parts : q :: cs ++ [q] = [q] ++ (cs ++ [q]) := rfl
  rw [parts, Stand.after_append, Stand.after_append, Stand.leftOf_append, Stand.leftOf_append,
    begun.1, begun.2, inner.1, inner.2, ended.1, ended.2]
  exact ⟨rfl, rfl⟩

theorem leftOf_quote (s : String) : Stand.code.after (Literal.quote s).toList = .code ∧
    Stand.code.leftOf (Literal.quote s).toList = ['"'] := by
  have quotes := chooseQuote_isQuote s.toList
  rw [Literal.quote, String.toList_ofList, Literal.quoteList]
  generalize Literal.chooseQuote s.toList = q at quotes ⊢
  refine leftOf_literal quotes ?_
  induction s.toList with
  | nil => exact ⟨rfl, rfl⟩
  | cons c cs ih => exact (isInner_escapeChar quotes c).append ih

private theorem isInner_jsonChar (c : Char) : IsInner '"' (Json.escapeChar true c) := by
  have unit : ∀ n, IsInner '"' (Json.unitEscape n) := fun n =>
    (isInner_of_escape (c := 'u') (by decide) (by decide)).append (isInner_hexDigits rfl 4 n)
  have long : IsInner '"' (Json.longEscape c) := by
    rw [Json.longEscape]
    split
    · exact unit _
    · exact (unit _).append (unit _)
  have letters : ∀ p ∈ Json.ownLetters, p.2 ≠ '\n' := by decide
  have written := Json.escapeChar_written true c
  generalize Json.escapeChar true c = text at written
  cases written with
  | lettered own => exact isInner_of_escape (by decide) (letters _ own)
  | numbered => exact long
  | plain isQuote isBackslash visible =>
    refine isInner_of_plain isQuote isBackslash ?_
    rintro rfl
    exact absurd visible (by decide)

theorem leftOf_jsonQuote (s : String) : Stand.code.after (Json.quote s).toList = .code ∧
    Stand.code.leftOf (Json.quote s).toList = ['"'] := by
  rw [Json.quote, String.toList_ofList, Json.quoteWith]
  refine leftOf_literal rfl ?_
  induction s.toList with
  | nil => exact ⟨rfl, rfl⟩
  | cons c cs ih => exact (isInner_jsonChar c).append ih

theorem leftOf_quoteLabel {s : String} (whole : '\n' ∉ s.toList) :
    Stand.code.after (Conversion.quoteLabel s).toList = .code ∧
      Stand.code.leftOf (Conversion.quoteLabel s).toList = ['"'] := by
  rw [Conversion.quoteLabel, String.toList_ofList]
  refine leftOf_literal rfl ?_
  generalize s.toList = cs at whole ⊢
  induction cs with
  | nil => exact ⟨rfl, rfl⟩
  | cons c cs ih =>
    rw [List.mem_cons, not_or] at whole
    rw [Conversion.escapeLabel, List.flatMap_cons]
    refine IsInner.append ?_ (ih whole.2)
    split
    · exact isInner_of_escape (by decide) (Ne.symm whole.1)
    · rename_i plain
      rw [Bool.or_eq_true, not_or, beq_iff_eq, beq_iff_eq] at plain
      exact isInner_of_plain plain.2 plain.1 (Ne.symm whole.1)

end Literals

section Printable

private theorem hexDigits_isPrintable (width n : Nat) :
    ∀ c ∈ Literal.hexDigits width n, isPrintable c = true := by
  have digit : ∀ d < 16, isPrintable (Literal.hexDigit d) = true := by decide
  induction width generalizing n with
  | zero => exact fun c member => absurd member List.not_mem_nil
  | succ width ih =>
    exact List.forall_mem_append.mpr ⟨ih (n / 16),
      List.forall_mem_singleton.mpr (digit _ (Nat.mod_lt n (by decide)))⟩

private theorem escapeChar_isPrintable {q : Char} (quotes : isPrintable q = true) (c : Char) :
    ∀ d ∈ Literal.escapeChar q c, isPrintable d = true := by
  have backslash : isPrintable '\\' = true := by decide
  have pair {letter : Char} (visible : isPrintable letter = true) :
      ∀ d ∈ ['\\', letter], isPrintable d = true :=
    List.forall_mem_cons.mpr ⟨backslash, List.forall_mem_singleton.mpr visible⟩
  have letters : ∀ p ∈ Literal.ownLetters, isPrintable p.2 = true := by decide
  have counted : ∀ p ∈ Literal.numberLetters, isPrintable p.1 = true := by decide
  have written := Literal.escapeChar_written q c
  generalize Literal.escapeChar q c = text at written
  cases written with
  | itself same =>
    rcases same with rfl | rfl
    · exact pair quotes
    · exact pair backslash
  | lettered own => exact pair (letters _ own)
  | plain _ _ visible => exact List.forall_mem_singleton.mpr visible
  | numbered among =>
    exact List.forall_mem_append.mpr ⟨pair (counted _ among), hexDigits_isPrintable _ _⟩

theorem quote_isPrintable (s : String) : ∀ c ∈ (Literal.quote s).toList, isPrintable c = true := by
  have visible : isPrintable (Literal.chooseQuote s.toList) = true := by
    rw [Literal.chooseQuote]
    split <;> decide
  rw [Literal.quote, String.toList_ofList, Literal.quoteList]
  intro c member
  rcases List.mem_append.mp member with front | last
  · rcases List.mem_cons.mp front with rfl | inner
    · exact visible
    · obtain ⟨d, -, among⟩ := List.mem_flatMap.mp inner
      exact escapeChar_isPrintable visible d c among
  · exact List.mem_singleton.mp last ▸ visible

end Printable

end ServiceCli.Script
