import Mathlib.Tactic.SplitIfs
import ServiceCli.Json.Printer
import ServiceCli.Json.Reader
import ServiceCli.Proofs.Outcome
import ServiceCli.Proofs.Text.Character

set_option autoImplicit false
set_option relaxedAutoImplicit false

namespace ServiceCli.Json

open ServiceCli.Data ServiceCli.Literal ServiceCli.Number ServiceCli.Text

section Strings

variable {start : Nat} {asciiOnly : Bool} {c : Char} {rest : List Char}

/-- A string that begins with a character before those that were read. -/
def front (c : Char) (read : Except Stop (List Char × List Char)) :
    Except Stop (List Char × List Char) :=
  read.map fun after => (c :: after.1, after.2)

theorem front_eq_bind (c : Char) (read : Except Stop (List Char × List Char)) :
    (do let (cs, tail) ← read; return (c :: cs, tail)) = front c read := by
  cases read <;> rfl

theorem unitEscape_eq {n : Nat} (small : n < 0x10000) :
    ∃ d₁ d₂ d₃ d₄, unitEscape n = ['\\', 'u', d₁, d₂, d₃, d₄]
      ∧ unitValue? d₁ d₂ d₃ d₄ = some n := by
  have digit : ∀ d < 16, hexValue? (hexDigit d) = some d := by decide
  have known : ∀ m, hexValue? (hexDigit (m % 16)) = some (m % 16) :=
    fun m => digit _ (Nat.mod_lt m (by decide))
  refine ⟨hexDigit (n / 16 / 16 / 16 % 16), hexDigit (n / 16 / 16 % 16), hexDigit (n / 16 % 16),
    hexDigit (n % 16), rfl, ?_⟩
  simp only [unitValue?, known, Option.some.injEq]
  omega

theorem readString_unit {n : Nat} (small : n < 0x10000) (single : isHighHalf n = false)
    (more : rest ≠ []) :
    readString start (unitEscape n ++ rest) = front (charOf n) (readString start rest) := by
  obtain ⟨d₁, d₂, d₃, d₄, spelt, number⟩ := unitEscape_eq small
  obtain ⟨next, tail, rfl⟩ := List.exists_cons_of_ne_nil more
  rw [spelt]
  simp only [List.cons_append, List.nil_append]
  -- The reader looks past the unit for a second one; here it does not matter whether there is one.
  by_cases paired : ∃ e f g h z after, next = '\\' ∧ tail = 'u' :: e :: f :: g :: h :: z :: after
  · obtain ⟨e, f, g, h, z, after, rfl, rfl⟩ := paired
    rw [readString, number]
    simp only [single, Bool.false_eq_true, if_false, front_eq_bind]
  · rw [readString.eq_4, number]
    · exact front_eq_bind _ _
    · exact fun e f g h z after first second => paired ⟨e, f, g, h, z, after, first, second⟩

theorem readString_pair {high low : Nat} (first : isHighHalf high = true)
    (second : isLowHalf low = true) (more : rest ≠ []) :
    readString start (unitEscape high ++ (unitEscape low ++ rest))
      = front (pairChar high low) (readString start rest) := by
  have bounds : high < 0x10000 ∧ low < 0x10000 := by
    simp only [isHighHalf, isLowHalf, Bool.and_eq_true, decide_eq_true_eq] at first second
    omega
  obtain ⟨d₁, d₂, d₃, d₄, highSpelt, highNumber⟩ := unitEscape_eq bounds.1
  obtain ⟨e₁, e₂, e₃, e₄, lowSpelt, lowNumber⟩ := unitEscape_eq bounds.2
  obtain ⟨next, tail, rfl⟩ := List.exists_cons_of_ne_nil more
  rw [highSpelt, lowSpelt]
  simp only [List.cons_append, List.nil_append]
  rw [readString, highNumber, lowNumber]
  simp only [first, second, if_true, front_eq_bind]

theorem readString_longEscape (more : rest ≠ []) :
    readString start (longEscape c ++ rest) = front c (readString start rest) := by
  have valid : c.toNat.isValidChar := c.valid
  have spelt : Char.ofNat c.toNat = c := Char.ofNat_toNat c
  have range : c.toNat < 0xd800 ∨ 0xdfff < c.toNat ∧ c.toNat < 0x110000 := valid
  rw [longEscape]
  split_ifs with small
  · have single : isHighHalf c.toNat = false := by
      simp only [isHighHalf, Bool.and_eq_false_iff, decide_eq_false_iff_not]
      omega
    rw [readString_unit small single more, charOf, if_pos valid, spelt]
  · have first : isHighHalf (0xd800 + (c.toNat - 0x10000) / 0x400) = true := by
      simp only [isHighHalf, Bool.and_eq_true, decide_eq_true_eq]
      omega
    have second : isLowHalf (0xdc00 + (c.toNat - 0x10000) % 0x400) = true := by
      simp only [isLowHalf, Bool.and_eq_true, decide_eq_true_eq]
      omega
    have whole : 0x10000 + (0xd800 + (c.toNat - 0x10000) / 0x400 - 0xd800) * 0x400
        + (0xdc00 + (c.toNat - 0x10000) % 0x400 - 0xdc00) = c.toNat := by
      omega
    rw [List.append_assoc, readString_pair first second more, pairChar, whole, spelt]

theorem readString_shortEscape {e : Char} (notUnit : e ≠ 'u') (short : shortEscape? e = some c) :
    readString start ('\\' :: e :: rest) = front c (readString start rest) := by
  rw [readString.eq_7 _ _ _ (by simp [notUnit]) (by simp [notUnit]) notUnit, short]
  exact front_eq_bind c _

theorem readString_plain (isQuote : c ≠ '"') (isBackslash : c ≠ '\\') (visible : 0x20 ≤ c.toNat) :
    readString start (c :: rest) = front c (readString start rest) := by
  rw [readString.eq_8 _ _ _ isQuote (by simp [isBackslash]) (by simp [isBackslash])
    (by simp [isBackslash]) (by simp [isBackslash]) (by simp [isBackslash]),
    if_neg (Nat.not_lt.mpr visible)]
  exact front_eq_bind c _

theorem readString_escapeChar (more : rest ≠ []) :
    readString start (escapeChar asciiOnly c ++ rest) = front c (readString start rest) := by
  have letters : ∀ p ∈ ownLetters, p.2 ≠ 'u' ∧ shortEscape? p.2 = some p.1 := by decide
  have written := escapeChar_written asciiOnly c
  generalize escapeChar asciiOnly c = text at written
  cases written with
  | lettered own => exact readString_shortEscape (letters _ own).1 (letters _ own).2
  | numbered => exact readString_longEscape more
  | plain isQuote isBackslash visible => exact readString_plain isQuote isBackslash visible

/-- A quoted text is read up to its closing quote. -/
theorem readString_quoted (cs : List Char) :
    readString start (cs.flatMap (escapeChar asciiOnly) ++ '"' :: rest) = .ok (cs, rest) := by
  induction cs with
  | nil => exact readString_close start rest
  | cons c cs ih =>
    rw [List.flatMap_cons, List.append_assoc, readString_escapeChar (by simp), ih]
    rfl

end Strings

section Numbers

variable {rest : List Char}

/-- Whether a text does not carry a whole number on: it begins with no digit, point or exponent. -/
def endsNumber : List Char → Bool
  | [] => true
  | c :: _ => !(c.isDigit || c == '.' || c == 'e' || c == 'E')

theorem spanDigits_append {digits : List Char} (all : ∀ c ∈ digits, c.isDigit = true)
    (ends : endsNumber rest = true) : spanDigits (digits ++ rest) = (digits, rest) := by
  have stop : rest.takeWhile Char.isDigit = [] ∧ rest.dropWhile Char.isDigit = rest := by
    cases rest with
    | nil => exact ⟨rfl, rfl⟩
    | cons c rest =>
      have other : c.isDigit = false := by
        simp only [endsNumber, Bool.not_eq_true', Bool.or_eq_false_iff] at ends
        exact ends.1.1.1
      simp [other]
  rw [spanDigits, List.takeWhile_append_of_pos all, List.dropWhile_append_of_pos all, stop.1,
    stop.2, List.append_nil]

theorem ofDigits_eq_ofDigitChars {digits : List Char} (all : ∀ c ∈ digits, c.isDigit = true)
    (n : Nat) :
    (digits.filterMap digitValue?).foldl (fun n d => n * 10 + d) n
      = Nat.ofDigitChars 10 digits n := by
  induction digits generalizing n with
  | nil => rfl
  | cons c digits ih =>
    have digit : ('0' ≤ c && c ≤ '9') = true := by
      have isDigit := all c List.mem_cons_self
      simpa [Char.isDigit, Char.le_def] using isDigit
    have value : digitValue? c = some (c.toNat - 0x30) := by rw [digitValue?, if_pos digit]
    rw [List.filterMap_cons_some value, List.foldl_cons,
      ih fun d member => all d (List.mem_cons_of_mem c member), Nat.mul_comm]
    rfl

theorem toDigits_isDigit {n : Nat} {c : Char} (member : c ∈ Nat.toDigits 10 n) :
    c.isDigit = true :=
  Nat.isDigit_of_mem_toDigits (by decide) (by decide) member

theorem digitsToNat_toDigits (n : Nat) : digitsToNat (Nat.toDigits 10 n) = n := by
  rw [digitsToNat, Number.ofDigits, ofDigits_eq_ofDigitChars fun c => toDigits_isDigit,
    Nat.ofDigitChars_ten_toDigits]

theorem toDigits_eq_zero_cons {n : Nat} {digits : List Char}
    (spelt : Nat.toDigits 10 n = '0' :: digits) : n = 0 := by
  induction n using Nat.strongRecOn generalizing digits with
  | ind n ih =>
    rw [Nat.toDigits_eq_if (by decide)] at spelt
    split_ifs at spelt with small
    · have digit : ∀ d < 10, Nat.digitChar d = '0' → d = 0 := by decide
      exact digit n small (List.cons.inj spelt).1
    · obtain ⟨d, ds, upper⟩ : ∃ d ds, Nat.toDigits 10 (n / 10) = d :: ds :=
        List.exists_cons_of_ne_nil Nat.toDigits_ne_nil
      rw [upper] at spelt
      have zero := ih (n / 10) (by omega) (upper.trans (congrArg (· :: ds) (List.cons.inj spelt).1))
      omega

theorem takeWhole_toDigits (n : Nat) (ends : endsNumber rest = true) :
    takeWhole (Nat.toDigits 10 n ++ rest) = some (Nat.toDigits 10 n, rest) := by
  obtain ⟨d, ds, spelt⟩ : ∃ d ds, Nat.toDigits 10 n = d :: ds :=
    List.exists_cons_of_ne_nil Nat.toDigits_ne_nil
  by_cases zero : d = '0'
  · subst zero
    have isZero := toDigits_eq_zero_cons spelt
    subst isZero
    rfl
  · have isDigit : d.isDigit = true := toDigits_isDigit (spelt ▸ List.mem_cons_self)
    have span : spanDigits (Nat.toDigits 10 n ++ rest) = (Nat.toDigits 10 n, rest) :=
      spanDigits_append (fun c => toDigits_isDigit) ends
    rw [spelt, List.cons_append] at span ⊢
    rw [takeWhole.eq_2 _ _ zero, if_pos isDigit, span]

theorem takeFraction_of_ends (ends : endsNumber rest = true) :
    takeFraction rest = (none, rest) := by
  cases rest with
  | nil => rfl
  | cons c rest =>
    have other : c ≠ '.' := by
      rintro rfl
      exact absurd ends (by simp [endsNumber])
    rw [takeFraction.eq_2 _ (by simp [other])]

theorem takePower_of_ends (ends : endsNumber rest = true) : takePower rest = (none, rest) := by
  cases rest with
  | nil => rfl
  | cons c rest =>
    simp only [endsNumber, Bool.not_eq_true', Bool.or_eq_false_iff] at ends
    have other : (c == 'e' || c == 'E') = false := by rw [ends.1.2, ends.2, Bool.or_false]
    rw [takePower, if_neg (by simp [other])]

theorem toString_int_toList (i : Int) : (toString i).toList
    = if 0 ≤ i then Nat.toDigits 10 i.natAbs else '-' :: Nat.toDigits 10 i.natAbs := by
  change i.repr.toList = _
  rw [Int.repr_eq_if]
  split_ifs with sign
  · rw [Nat.toList_repr, show i.toNat = i.natAbs by omega]
  · rw [String.toList_append, Nat.toList_repr, show (-i).toNat = i.natAbs by omega]
    rfl

theorem exists_toDigits (n : Nat) : ∃ d ds, Nat.toDigits 10 n = d :: ds ∧ d.isDigit = true := by
  obtain ⟨d, ds, spelt⟩ : ∃ d ds, Nat.toDigits 10 n = d :: ds :=
    List.exists_cons_of_ne_nil Nat.toDigits_ne_nil
  exact ⟨d, ds, spelt, toDigits_isDigit (spelt ▸ List.mem_cons_self)⟩

variable {n fuel : Nat}

theorem readNumber_toDigits (short : (Nat.toDigits 10 n).length ≤ digitLimit)
    (ends : endsNumber rest = true) :
    readNumber (Nat.toDigits 10 n ++ rest) = .ok (.int n, rest) := by
  have unsigned : ∀ tail, Nat.toDigits 10 n ++ rest = '-' :: tail → False := by
    obtain ⟨d, ds, spelt, isDigit⟩ := exists_toDigits n
    intro tail same
    rw [spelt] at same
    rw [(List.cons.inj same).1] at isDigit
    exact absurd isDigit (by decide)
  rw [readNumber.eq_2 _ unsigned, takeWhole_toDigits n ends]
  simp only [takeFraction_of_ends ends, takePower_of_ends ends, if_neg (Nat.not_lt.mpr short),
    digitsToNat_toDigits, Bool.false_eq_true, if_false]

theorem readNumber_dash_toDigits (short : (Nat.toDigits 10 n).length ≤ digitLimit)
    (ends : endsNumber rest = true) :
    readNumber ('-' :: (Nat.toDigits 10 n ++ rest)) = .ok (.int (-n), rest) := by
  rw [readNumber.eq_1, takeWhole_toDigits n ends]
  simp only [takeFraction_of_ends ends, takePower_of_ends ends, if_neg (Nat.not_lt.mpr short),
    digitsToNat_toDigits, if_true]

theorem readValue_of_digit {d : Char} {tail : List Char} (isDigit : d.isDigit = true) :
    readValue (fuel + 1) (d :: tail) = readNumber (d :: tail) := by
  have differs : ∀ c : Char, c.isDigit = false → d ≠ c := by
    rintro c other rfl
    exact absurd (isDigit.symm.trans other) (by decide)
  rw [readValue.eq_5, readPlain.eq_7]
  all_goals
    intro _ same
    exact differs _ (by decide) (List.cons.inj same).1

theorem readValue_of_dash_digit {d : Char} {tail : List Char} (isDigit : d.isDigit = true) :
    readValue (fuel + 1) ('-' :: d :: tail) = readNumber ('-' :: d :: tail) := by
  have other : d ≠ 'I' := by
    rintro rfl
    exact absurd isDigit (by decide)
  rw [readValue.eq_5, readPlain.eq_7]
  all_goals simp [other]

theorem readValue_int {i : Int} (short : (Nat.toDigits 10 i.natAbs).length ≤ digitLimit)
    (ends : endsNumber rest = true) :
    readValue (fuel + 1) ((toString i).toList ++ rest) = .ok (.int i, rest) := by
  obtain ⟨d, ds, spelt, isDigit⟩ := exists_toDigits i.natAbs
  rw [toString_int_toList]
  split_ifs with sign
  · have number := readNumber_toDigits short ends
    rw [Int.natAbs_of_nonneg sign] at number
    rw [← number, spelt]
    exact readValue_of_digit isDigit
  · have number := readNumber_dash_toDigits short ends
    rw [show -(i.natAbs : Int) = i by omega] at number
    rw [← number, spelt]
    exact readValue_of_dash_digit isDigit

end Numbers

end ServiceCli.Json
