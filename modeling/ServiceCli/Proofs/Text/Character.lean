import Mathlib.Algebra.Group.Nat.Defs
import Mathlib.Tactic.SplitIfs
import ServiceCli.Command.Name
import ServiceCli.Json.Quoted
import ServiceCli.Literal.Quoted

set_option autoImplicit false
set_option relaxedAutoImplicit false

namespace ServiceCli.Json

def ownLetters : List (Char × Char) := [
  ('"', '"'), ('\\', '\\'), ('\n', 'n'), ('\r', 'r'), ('\t', 't'), (Char.ofNat 0x0c, 'f'),
  (Char.ofNat 0x08, 'b')]

/-- The ways in which a character is written in a string. -/
inductive Written (c : Char) : List Char → Prop
  | lettered {letter : Char} : (c, letter) ∈ ownLetters → Written c ['\\', letter]
  | numbered : Written c (longEscape c)
  | plain : c ≠ '"' → c ≠ '\\' → 0x20 ≤ c.toNat → Written c [c]

theorem escapeChar_written (asciiOnly : Bool) (c : Char) : Written c (escapeChar asciiOnly c) := by
  have lettered : ∀ {d letter : Char}, (d, letter) ∈ ownLetters → (c == d) = true →
      Written c ['\\', letter] := fun member same => .lettered (eq_of_beq same ▸ member)
  have counted : ∀ {n : Nat} {letter : Char}, (Char.ofNat n, letter) ∈ ownLetters →
      (c.toNat == n) = true → Written c ['\\', letter] := fun member same => by
    rw [← eq_of_beq same, Char.ofNat_toNat] at member
    exact .lettered member
  rw [escapeChar]
  refine iteInduction (lettered (by decide)) fun isQuote => ?_
  refine iteInduction (lettered (by decide)) fun isBackslash => ?_
  refine iteInduction (lettered (by decide)) fun _ => ?_
  refine iteInduction (lettered (by decide)) fun _ => ?_
  refine iteInduction (lettered (by decide)) fun _ => ?_
  refine iteInduction (counted (by decide)) fun _ => ?_
  refine iteInduction (counted (by decide)) fun _ => ?_
  refine iteInduction (fun _ => .numbered) fun visible => ?_
  refine iteInduction (fun _ => .numbered) fun _ => ?_
  exact .plain (by simpa using isQuote) (by simpa using isBackslash) (Nat.not_lt.mp visible)

theorem escapeChar_of_foreign {c : Char} (foreign : 0x7f ≤ c.toNat) :
    escapeChar true c = longEscape c := by
  have differ : ∀ d : Char, d.toNat < 0x7f → (c == d) = false := by
    intro d low
    rw [beq_eq_false_iff_ne]
    rintro rfl
    omega
  have notFeed : (c.toNat == 0x0c) = false := by rw [beq_eq_false_iff_ne]; omega
  have notBack : (c.toNat == 0x08) = false := by rw [beq_eq_false_iff_ne]; omega
  have notControl : ¬ c.toNat < 0x20 := by omega
  simp [escapeChar, differ, notFeed, notBack, notControl, foreign]

end ServiceCli.Json

namespace ServiceCli.Literal

open ServiceCli.Text

def ownLetters : List (Char × Char) := [('\n', 'n'), ('\r', 'r'), ('\t', 't')]

/-- The letters of the escapes that give a number, with the count of its digits. -/
def numberLetters : List (Char × Nat) := [('x', 2), ('u', 4), ('U', 8)]

/-- The ways in which a character is written in a literal. -/
inductive Written (quote c : Char) : List Char → Prop
  | itself : c = quote ∨ c = '\\' → Written quote c ['\\', c]
  | lettered {letter : Char} : (c, letter) ∈ ownLetters → Written quote c ['\\', letter]
  | plain : c ≠ quote → c ≠ '\\' → isPrintable c = true → Written quote c [c]
  | numbered {letter : Char} {width : Nat} : (letter, width) ∈ numberLetters →
    c.toNat < 16 ^ width → Written quote c ('\\' :: letter :: hexDigits width c.toNat)

theorem escapeChar_written (quote c : Char) : Written quote c (escapeChar quote c) := by
  have lettered : ∀ {d letter : Char}, (d, letter) ∈ ownLetters → (c == d) = true →
      Written quote c ['\\', letter] := fun member same => .lettered (eq_of_beq same ▸ member)
  have small : c.toNat < 16 ^ 8 := by
    rcases c.valid with low | ⟨-, high⟩
    · exact Nat.lt_trans low (by decide)
    · exact Nat.lt_trans high (by decide)
  rw [escapeChar]
  refine iteInduction (fun escaped => .itself (by simpa using escaped)) fun unescaped => ?_
  obtain ⟨inside, unmarked⟩ : c ≠ quote ∧ c ≠ '\\' := by simpa using unescaped
  refine iteInduction (lettered (by decide)) fun _ => ?_
  refine iteInduction (lettered (by decide)) fun _ => ?_
  refine iteInduction (lettered (by decide)) fun _ => ?_
  refine iteInduction (fun visible => .plain inside unmarked visible) fun _ => ?_
  refine iteInduction (fun byte => .numbered (by decide) byte) fun _ => ?_
  exact iteInduction (fun unit => .numbered (by decide) unit) fun _ => .numbered (by decide) small

end ServiceCli.Literal

/-! ### Lower case

Lower case leaves no ASCII capital: a capital becomes its small letter, and the image of any other
character lies behind the capitals.
-/

namespace ServiceCli.Text

open ServiceCli.Command

theorem isCapital_iff {c : Char} : isCapital c = true ↔ 0x41 ≤ c.toNat ∧ c.toNat ≤ 0x5a := by
  rw [isCapital, Bool.and_eq_true, decide_eq_true_eq, decide_eq_true_eq]
  exact Iff.rfl

theorem not_isCapital_of_lt {c : Char} (behind : 0x5a < c.toNat) : isCapital c = false := by
  rw [Bool.eq_false_iff, ne_eq, isCapital_iff]
  omega

theorem not_isCapital_ofNat {n : Nat} (behind : 0x5a < n) : isCapital (Char.ofNat n) = false := by
  by_cases valid : n.isValidChar
  · have point : (Char.ofNat n).toNat = n := by
      rw [Char.ofNat, dif_pos valid]
      rfl
    exact not_isCapital_of_lt (by rwa [point])
  · rw [Char.ofNat, dif_neg valid]
    decide

theorem lt_of_mapRuns {n image : Nat} (mapped : mapRuns lowerRuns n = some image) :
    0x5a < image := by
  have far : lowerRuns.all (fun run => 0x5a < (run.1 : Int) + run.2.2.2) = true := by
    decide +kernel
  obtain ⟨⟨first, last, stride, shift⟩, member, found⟩ := List.exists_of_findSome?_eq_some mapped
  have start := of_decide_eq_true (List.all_eq_true.mp far _ member)
  dsimp only at found start
  split at found
  · rename_i within
    have low : first ≤ n := by
      simp only [Bool.and_eq_true, decide_eq_true_eq] at within
      exact within.1.1
    rw [← Option.some.inj found]
    omega
  · exact nomatch found

theorem lowerChar_not_isCapital {c d : Char} (member : d ∈ lowerChar c) : isCapital d = false := by
  rw [lowerChar] at member
  split_ifs at member with ascii capital dotted
  · rw [List.mem_singleton.mp member]
    obtain ⟨low, high⟩ := isCapital_iff.mp capital
    exact not_isCapital_ofNat (by omega)
  · rw [List.mem_singleton.mp member]
    exact Bool.eq_false_iff.mpr capital
  · simp only [List.mem_cons, List.not_mem_nil, or_false] at member
    rcases member with rfl | rfl <;> rfl
  · split at member
    · rename_i image mapped
      rw [List.mem_singleton.mp member]
      exact not_isCapital_ofNat (lt_of_mapRuns mapped)
    · rw [List.mem_singleton.mp member]
      exact not_isCapital_of_lt (by omega)

theorem lowerFrom_not_isCapital (cs before : List Char) :
    ∀ d ∈ lowerFrom before cs, isCapital d = false := by
  induction cs generalizing before with
  | nil => exact fun d member => absurd member List.not_mem_nil
  | cons c cs ih =>
    rw [lowerFrom]
    refine List.forall_mem_append.mpr ⟨fun d member => ?_, ih (c :: before)⟩
    split at member
    · -- a small sigma, the final one or the other
      rw [List.mem_singleton.mp member]
      split <;> exact not_isCapital_ofNat (by decide)
    · exact lowerChar_not_isCapital member

/-! ### Indentation

The spaces that a line begins with, and what follows them.
-/

/-- The number of spaces that a text begins with. -/
def indentOf (cs : List Char) : Nat := (cs.takeWhile (· == ' ')).length

/-- A text without the spaces that it begins with. -/
def unindented (cs : List Char) : List Char := cs.dropWhile (· == ' ')

theorem pushn_toList (c : Char) (n : Nat) : ("".pushn c n).toList = List.replicate n c := by
  induction n with
  | zero => rfl
  | succ n ih =>
    have next : "".pushn c (n + 1) = ("".pushn c n).push c := rfl
    rw [next, String.toList_push, ih, List.replicate_succ']

variable (n : Nat) {cs : List Char}

theorem indentOf_append (cs : List Char) :
    indentOf (List.replicate n ' ' ++ cs) = n + indentOf cs := by
  rw [indentOf, List.takeWhile_append_of_pos (by simp), List.length_append, List.length_replicate]
  rfl

theorem unindented_append (cs : List Char) :
    unindented (List.replicate n ' ' ++ cs) = unindented cs :=
  List.dropWhile_append_of_pos (by simp)

variable (solid : cs.head? ≠ some ' ')
include solid

theorem indentOf_solid : indentOf cs = 0 := by
  cases cs with
  | nil => rfl
  | cons c cs =>
    have other : (c == ' ') = false := by simpa using solid
    simp [indentOf, other]

theorem unindented_solid : unindented cs = cs := by
  cases cs with
  | nil => rfl
  | cons c cs =>
    have other : (c == ' ') = false := by simpa using solid
    simp [unindented, other]

end ServiceCli.Text
