import Mathlib.Tactic.SplitIfs
import ServiceCli.Failure
import ServiceCli.Proofs.Data.JsonValue
import ServiceCli.Proofs.Outcome

/-!
The limit of the JSON reader. Each reader leaves the end of what it reads, or finds a problem that
the text shows. Main statement: a text that is refused for the limit and not for its grammar holds a
whole number of more digits than the reader takes.
-/

set_option autoImplicit false
set_option relaxedAutoImplicit false

namespace ServiceCli.Json

open ServiceCli.Data ServiceCli.Number ServiceCli.Text
open Outcome (bind_eq_error)

/-- What a problem says about the text that it was found in. -/
def Problem.Shows (cs : List Char) : Problem → Prop
  | .tooManyDigits count => digitLimit < count ∧
    ∃ digits, digits <:+: cs ∧ digits.length = count ∧ ∀ c ∈ digits, c.isDigit = true
  | _ => True

/-- A reader leaves the end of a text, or finds a problem that the text shows. -/
def Within {α : Type} (cs : List Char) : Except Stop (α × List Char) → Prop
  | .ok (_, rest) => rest <:+ cs
  | .error stop => stop.problem.Shows cs

section Within

variable {α β : Type} {cs rest : List Char}

theorem Problem.Shows.of_suffix {p : Problem} (shown : p.Shows rest) (ends : rest <:+ cs) :
    p.Shows cs := by
  cases p with
  | tooManyDigits count =>
    obtain ⟨many, digits, inside, rest⟩ := shown
    exact ⟨many, digits, inside.trans ends.isInfix, rest⟩
  | _ => trivial

theorem Within.of_suffix {x : Except Stop (α × List Char)} (within : Within rest x)
    (ends : rest <:+ cs) : Within cs x := by
  cases x with
  | error stop => exact Problem.Shows.of_suffix within ends
  | ok found => exact List.IsSuffix.trans within ends

theorem Within.bind {x : Except Stop (α × List Char)}
    {f : α × List Char → Except Stop (β × List Char)} (first : Within cs x)
    (next : ∀ a rest, x = .ok (a, rest) → Within rest (f (a, rest))) :
    Within cs (x >>= f) := by
  cases x with
  | error stop => exact first
  | ok found => exact (next found.1 found.2 rfl).of_suffix first

theorem Within.ok {a : α} (ends : rest <:+ cs) :
    Within cs (.ok (a, rest) : Except Stop (α × List Char)) := ends

theorem Within.pure {a : α} (ends : rest <:+ cs) :
    Within cs (Pure.pure (a, rest) : Except Stop (α × List Char)) := ends

end Within

section Scalar

variable {cs rest : List Char}

theorem skipSpace_suffix (cs : List Char) : skipSpace cs <:+ cs := List.dropWhile_suffix _

theorem suffix_of_skipSpace {c : Char} {tail : List Char} (spaced : skipSpace cs = c :: tail) :
    tail <:+ cs :=
  (List.suffix_cons c tail).trans (spaced ▸ skipSpace_suffix cs)

theorem Within.front {x : Except Stop (List Char × List Char)} (c : Char)
    (within : Within rest x) (ends : rest <:+ cs) :
    Within cs (do
      let (told, tail) ← x
      return (c :: told, tail)) :=
  (within.of_suffix ends).bind fun _ _ _ => .pure List.suffix_rfl

theorem readString_within (start : Nat) (cs : List Char) :
    Within cs (readString start cs) := by
  fun_induction readString start cs
  case case2 => exact List.suffix_cons _ _
  case case5 ih | case6 ih | case7 ih | case9 ih | case13 ih | case15 ih =>
    exact ih.front _ (by simp [List.suffix_cons_iff])
  all_goals exact trivial

theorem spanDigits_suffix (cs : List Char) : (spanDigits cs).2 <:+ cs := List.dropWhile_suffix _

theorem takeFraction_suffix (cs : List Char) : (takeFraction cs).2 <:+ cs := by
  fun_cases takeFraction cs with
  | case1 d rest digit ds tail spanned =>
    have ends := spanDigits_suffix (d :: rest)
    rw [spanned] at ends
    exact ends.trans (List.suffix_cons _ _)
  | case2 => exact List.suffix_rfl
  | case3 => exact List.suffix_rfl

theorem takeSign_suffix (cs : List Char) : (takeSign cs).2 <:+ cs := by
  fun_cases takeSign cs
  all_goals first
    | exact List.suffix_cons _ _
    | exact List.suffix_rfl

theorem takePower_suffix (cs : List Char) : (takePower cs).2 <:+ cs := by
  fun_cases takePower cs with
  | case2 e rest marked negative body signed ds tail more spanned =>
    have sign := takeSign_suffix rest
    have digits := spanDigits_suffix body
    rw [signed] at sign
    rw [spanned] at digits
    exact digits.trans (sign.trans (List.suffix_cons e rest))
  | _ => exact List.suffix_rfl

theorem takeWhole_eq_some {whole : List Char} (taken : takeWhole cs = some (whole, rest)) :
    cs = whole ++ rest ∧ ∀ c ∈ whole, c.isDigit = true := by
  revert taken
  fun_cases takeWhole cs with
  | case1 behind =>
    intro taken
    cases taken
    exact ⟨rfl, List.forall_mem_singleton.mpr (by decide)⟩
  | case2 d behind nonzero digit =>
    intro taken
    cases taken
    exact ⟨List.takeWhile_append_dropWhile.symm, List.all_eq_true.mp List.all_takeWhile⟩
  | _ => exact nofun

private theorem unsigned_suffix {negative : Bool} {body : List Char}
    (signed : (match cs with
      | '-' :: rest => (true, rest)
      | _ => (false, cs)) = (negative, body)) : body <:+ cs := by
  split at signed <;> cases signed
  · exact List.suffix_cons _ _
  · exact List.suffix_rfl

theorem readNumber_within (cs : List Char) : Within cs (readNumber cs) := by
  have left {body whole behind after : List Char} (ends : body <:+ cs)
      (taken : takeWhole body = some (whole, behind)) (more : after <:+ behind) : after <:+ cs := by
    have rest : behind <:+ body := ⟨whole, (takeWhole_eq_some taken).1.symm⟩
    exact more.trans (rest.trans ends)
  have behind (cs : List Char) : (takePower (takeFraction cs).2).2 <:+ cs :=
    (takePower_suffix _).trans (takeFraction_suffix cs)
  fun_cases readNumber cs with
  | case1 => exact trivial
  | case2 negative body split whole rest taken after last many fraction power =>
    obtain ⟨spelt, digits⟩ := takeWhole_eq_some taken
    have inside : whole <:+: cs :=
      (List.prefix_append whole rest).isInfix.trans (spelt ▸ (unsigned_suffix split).isInfix)
    exact ⟨many, whole, inside, rfl, digits⟩
  | case3 negative body split whole rest taken after last few n fraction power =>
    have ends := behind rest
    rw [fraction, power] at ends
    exact .ok (left (unsigned_suffix split) taken ends)
  | case4 negative body split whole rest taken after last _ _ _ _ fraction power =>
    have ends := behind rest
    rw [fraction, power] at ends
    exact .ok (left (unsigned_suffix split) taken ends)

theorem readPlain_within (cs : List Char) : Within cs (readPlain cs) := by
  fun_cases readPlain cs
  case case7 => exact readNumber_within cs
  all_goals exact .ok (by simp [List.suffix_cons_iff])

end Scalar

private theorem readWithin_within (fuel : Nat) :
    (∀ cs : List Char, Within cs (readValue fuel cs)) ∧
    (∀ cs : List Char, Within cs (readItems fuel cs)) ∧
    (∀ (done : Entries) (cs : List Char), Within cs (readMembers fuel done cs)) := by
  induction fuel with
  | zero => exact ⟨fun _ => trivial, fun _ => trivial, fun _ _ => trivial⟩
  | succ fuel ih =>
    obtain ⟨valueWithin, itemsWithin, membersWithin⟩ := ih
    refine ⟨fun cs => ?value, fun cs => ?items, fun done cs => ?members⟩
    case value =>
      rw [readValue.eq_def]
      dsimp only
      split
      · exact ((readString_within _ _).of_suffix (List.suffix_cons _ _)).bind
          fun _ _ _ => .pure List.suffix_rfl
      · rename_i rest
        split
        · rename_i tail spaced
          exact .ok ((suffix_of_skipSpace spaced).trans (List.suffix_cons _ rest))
        · exact (membersWithin _ _).of_suffix ((skipSpace_suffix rest).trans (List.suffix_cons _ _))
      · rename_i rest
        split
        · rename_i tail spaced
          exact .ok ((suffix_of_skipSpace spaced).trans (List.suffix_cons _ rest))
        · exact (itemsWithin _).of_suffix ((skipSpace_suffix rest).trans (List.suffix_cons _ _))
      · exact readPlain_within cs
    case items =>
      rw [readItems.eq_def]
      refine (valueWithin cs).bind fun v rest _ => ?_
      dsimp only
      split
      · rename_i tail spaced
        exact .pure (suffix_of_skipSpace spaced)
      · rename_i tail spaced
        have further : skipSpace tail <:+ rest :=
          (skipSpace_suffix tail).trans (suffix_of_skipSpace spaced)
        refine ((itemsWithin _).of_suffix further).bind fun more tail _ => ?_
        dsimp only
        split <;> exact .pure List.suffix_rfl
      · exact trivial
    case members =>
      rw [readMembers.eq_def]
      dsimp only
      split
      · rename_i rest
        refine ((readString_within _ _).of_suffix (List.suffix_cons _ _)).bind
          fun name rest _ => ?_
        dsimp only
        split
        · rename_i behind spaced
          have further : skipSpace behind <:+ rest :=
            (skipSpace_suffix behind).trans (suffix_of_skipSpace spaced)
          refine ((valueWithin _).of_suffix further).bind fun v rest _ => ?_
          dsimp only
          split
          · rename_i tail spaced
            exact .pure (suffix_of_skipSpace spaced)
          · rename_i tail spaced
            have last : skipSpace tail <:+ rest :=
              (skipSpace_suffix tail).trans (suffix_of_skipSpace spaced)
            exact (membersWithin _ _).of_suffix last
          · exact trivial
        · exact trivial
      · exact trivial

/-! ### Texts that exceed the limit -/

/-- Reading a text comes upon the limit of the reader, which is a fault and no matter of grammar. -/
inductive Exceeds (text : String) : Fault → Prop
  | digits {count index : Nat} :
    read text = .error ⟨.tooManyDigits count, index⟩ → Exceeds text .malformedValue

section Exceeds

variable {text : String} {fault : Fault}

theorem exceeds_iff :
    Exceeds text fault ↔ ∃ e, read text = .error e ∧ Fault.ofProblem? e.problem = some fault := by
  constructor
  · rintro ⟨failed⟩
    exact ⟨_, failed, rfl⟩
  · rintro ⟨⟨problem, index⟩, failed, found⟩
    cases problem with
    | tooManyDigits count => cases found; exact .digits failed
    | _ => exact nomatch found

theorem read_eq_error {e : ReadError} (failed : read text = .error e) :
    e.problem.Shows text.toList := by
  rw [read, readList.eq_def] at failed
  dsimp only at failed
  split at failed
  · cases failed
  · rename_i stop located
    cases failed
    split at located
    · cases located
      trivial
    · have value := ((readWithin_within (fuelFor text.toList)).1
        (skipSpace text.toList)).of_suffix (skipSpace_suffix text.toList)
      rcases bind_eq_error.mp located with unread | ⟨⟨v, rest⟩, -, located⟩
      · rw [unread] at value
        exact value
      · dsimp only at located
        split at located
        · cases located
        · cases located
          trivial

/-- A text that exceeds the limit holds a number of too many digits. -/
theorem Exceeds.shows (exceeds : Exceeds text fault) :
    fault = .malformedValue ∧ ∃ digits, digits <:+: text.toList ∧ digitLimit < digits.length ∧
      ∀ c ∈ digits, c.isDigit = true := by
  obtain ⟨failed⟩ := exceeds
  obtain ⟨many, digits, inside, rfl, all⟩ := read_eq_error failed
  exact ⟨rfl, digits, inside, many, all⟩

/-- Short texts do not exceed the limit. -/
theorem Exceeds.length (exceeds : Exceeds text fault) : digitLimit < text.length := by
  obtain ⟨-, digits, inside, many, -⟩ := exceeds.shows
  rw [← String.length_toList]
  exact Nat.lt_of_lt_of_le many inside.length_le

end Exceeds

end ServiceCli.Json
