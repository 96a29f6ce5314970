import ServiceCli.Proofs.Script.Token

set_option autoImplicit false
set_option relaxedAutoImplicit false

namespace ServiceCli.Script

open ServiceCli.Text

/-- The code points of a text literal that is nothing else. -/
def points? (cs : List Char) : Option (List Nat) :=
  match cs with
  | [] => none
  | quote :: rest =>
    if isQuote quote then
      match literal? quote rest with
      | some (points, []) => some points
      | _ => none
    else none

/-- A source text is one complete literal, and denotes a text character by character. -/
def Denotes (source text : String) : Prop :=
  points? source.toList = some (text.toList.map Char.toNat)

instance (source text : String) : Decidable (Denotes source text) :=
  inferInstanceAs (Decidable (_ = _))

theorem points?_of_literal? {q : Char} (quotes : isQuote q = true) {cs : List Char}
    {points : List Nat} (read : literal? q cs = some (points, [])) :
    points? (q :: cs) = some points := by
  rw [points?, if_pos quotes, read]

/-- A text without any quote, in which no literal begins. -/
def HasNoQuote (text : String) : Prop := ∀ c ∈ text.toList, isQuote c = false

theorem hasNoQuote_of_all {text : String}
    (all : text.toList.all (fun c => !isQuote c) = true) : HasNoQuote text := by
  intro c member
  simpa using List.all_eq_true.mp all c member

theorem HasNoQuote.append {s t : String} (first : HasNoQuote s) (second : HasNoQuote t) :
    HasNoQuote (s ++ t) := by
  intro c member
  rw [String.toList_append, List.mem_append] at member
  exact member.elim (first c) (second c)

theorem hasNoQuote_of_wordChars {text : String}
    (word : ∀ c ∈ text.toList, isWordChar c = true) : HasNoQuote text := by
  intro c member
  have wordChar := word c member
  rw [isQuote, Bool.or_eq_false_iff, beq_eq_false_iff_ne, beq_eq_false_iff_ne]
  constructor <;> rintro rfl <;> exact absurd wordChar (by decide)

theorem hasNoQuote_of_isWord {text : String} (word : isWord text = true) : HasNoQuote text := by
  simp only [isWord, Bool.and_eq_true, List.all_eq_true] at word
  exact hasNoQuote_of_wordChars word.1

private theorem toNat_lt (c : Char) : c.toNat < 0x110000 := by
  rcases c.valid with low | ⟨-, high⟩
  · exact Nat.lt_trans low (by decide)
  · exact high

section Literal

variable {q : Char}

theorem chooseQuote_isQuote (cs : List Char) : isQuote (Literal.chooseQuote cs) = true := by
  rw [Literal.chooseQuote]
  split
  · rfl
  · rfl

theorem literal?_literalChar (quotes : isQuote q = true) (c : Char) (rest : List Char) :
    literal? q (Literal.escapeChar q c ++ rest) = after [c.toNat] (literal? q rest) := by
  have either : q = '"' ∨ q = '\'' := by simpa [isQuote] using quotes
  have notBackslash : q ≠ '\\' := by rcases either with rfl | rfl <;> decide
  have letters : ∀ p ∈ Literal.ownLetters, shortEscape? p.2 = some p.1.toNat := by decide
  have written := Literal.escapeChar_written q c
  generalize Literal.escapeChar q c = text at written
  cases written with
  | itself same =>
    rcases same with rfl | rfl
    · rcases either with rfl | rfl
      · exact literal?_escape (by decide) rfl
      · exact literal?_escape (by decide) rfl
    · exact literal?_escape notBackslash rfl
  | lettered own => exact literal?_escape notBackslash (escape?_short (letters _ own) rest)
  | plain inside unmarked visible =>
    exact literal?_plain inside (breaksLine_of_printable visible) unmarked
  | @numbered letter width among small =>
    have digits : escape? (letter :: (Literal.hexDigits width c.toNat ++ rest))
        = longEscape? width (Literal.hexDigits width c.toNat ++ rest) := by
      obtain ⟨byte, unit, point⟩ := escape?_hexDigits (Literal.hexDigits width c.toNat ++ rest)
      simp only [Literal.numberLetters, List.mem_cons, Prod.mk.injEq, List.not_mem_nil, or_false]
        at among
      rcases among with ⟨rfl, rfl⟩ | ⟨rfl, rfl⟩ | ⟨rfl, rfl⟩
      · exact byte
      · exact unit
      · exact point
    exact literal?_escape notBackslash
      (digits.trans (longEscape?_hexDigits small (toNat_lt c) rest))

theorem literal?_literalChars (quotes : isQuote q = true) (cs rest : List Char) :
    literal? q (cs.flatMap (Literal.escapeChar q) ++ q :: rest)
      = some (cs.map Char.toNat, rest) := by
  induction cs with
  | nil => exact literal?_close
  | cons c cs ih =>
    rw [List.flatMap_cons, List.append_assoc, literal?_literalChar quotes, ih]
    rfl

/-- The literal of a text denotes it, whatever the text holds. -/
theorem denotes_quote (s : String) : Denotes (Literal.quote s) s := by
  rw [Denotes, Literal.quote, String.toList_ofList]
  exact points?_of_literal? (chooseQuote_isQuote s.toList)
    (literal?_literalChars (chooseQuote_isQuote s.toList) s.toList [])

end Literal

section JsonString

/-- One unit is enough for every character of a text. -/
def IsBasic (s : String) : Prop := ∀ c ∈ s.toList, c.toNat < 0x10000

/-- The sixteen-bit units of a character. -/
def unitsOf (c : Char) : List Nat :=
  if c.toNat < 0x10000 then [c.toNat]
  else [0xd800 + (c.toNat - 0x10000) / 0x400, 0xdc00 + (c.toNat - 0x10000) % 0x400]

theorem literal?_jsonChar (c : Char) (rest : List Char) :
    literal? '"' (Json.escapeChar true c ++ rest) = after (unitsOf c) (literal? '"' rest) := by
  by_cases small : c.toNat < 0x10000
  · rw [unitsOf, if_pos small]
    exact literal?_escapeChar small rest
  · have below := toNat_lt c
    have high : 0xd800 + (c.toNat - 0x10000) / 0x400 < 0x10000 := by omega
    have low : 0xdc00 + (c.toNat - 0x10000) % 0x400 < 0x10000 := by omega
    rw [Json.escapeChar_of_foreign (by omega), Json.longEscape, unitsOf, if_neg small, if_neg small,
      List.append_assoc]
    have first := literal?_escape (by decide : '"' ≠ '\\') (escape?_unit high
      (Json.unitEscape (0xdc00 + (c.toNat - 0x10000) % 0x400) ++ rest))
    have second := literal?_escape (by decide : '"' ≠ '\\') (escape?_unit low rest)
    refine first.trans ?_
    refine (congrArg (after _) second).trans ?_
    rw [after, after, Option.map_map]
    rfl

theorem literal?_jsonChars (cs rest : List Char) :
    literal? '"' (cs.flatMap (Json.escapeChar true) ++ '"' :: rest)
      = some (cs.flatMap unitsOf, rest) := by
  induction cs with
  | nil => exact literal?_close
  | cons c cs ih =>
    rw [List.flatMap_cons, List.append_assoc, literal?_jsonChar, ih]
    rfl

/-- A quoted string of JSON denotes its text just when one unit is enough for each character. -/
theorem denotes_jsonQuote (s : String) : Denotes (Json.quote s) s ↔ IsBasic s := by
  have units : points? (Json.quote s).toList = some (s.toList.flatMap unitsOf) := by
    rw [Json.quote, String.toList_ofList]
    exact points?_of_literal? rfl (literal?_jsonChars s.toList [])
  rw [Denotes, units, Option.some.injEq]
  constructor
  · intro same c member
    have unit : c.toNat ∈ s.toList.flatMap unitsOf := same ▸ List.mem_map_of_mem member
    obtain ⟨d, -, there⟩ := List.mem_flatMap.mp unit
    have below := toNat_lt d
    rw [unitsOf] at there
    split at there
    · rw [List.mem_singleton.mp there]
      assumption
    · simp only [List.mem_cons, List.not_mem_nil, or_false] at there
      rcases there with equal | equal
      · omega
      · omega
  · intro basic
    have whole := literal?_quoted basic []
    rw [literal?_jsonChars] at whole
    exact congrArg Prod.fst (Option.some.inj whole)

end JsonString

end ServiceCli.Script
