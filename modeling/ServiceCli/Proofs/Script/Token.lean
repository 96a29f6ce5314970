import ServiceCli.Conversion.Lines
import ServiceCli.Proofs.Text.Character

set_option autoImplicit false
set_option relaxedAutoImplicit false

namespace ServiceCli.Script

def hexNumber? (digits : List Char) : Option Nat :=
  digits.foldlM (fun n c => (Json.hexValue? c).map (16 * n + ·)) 0

/-- The code point that one letter after a backslash stands for. -/
def shortEscape? (c : Char) : Option Nat :=
  match c with
  | '\\' => some 0x5c
  | '\'' => some 0x27
  | '"' => some 0x22
  | 'a' => some 0x07
  | 'b' => some 0x08
  | 'f' => some 0x0c
  | 'n' => some 0x0a
  | 'r' => some 0x0d
  | 't' => some 0x09
  | 'v' => some 0x0b
  | _ => none

/-- The code point that so many hexadecimal digits denote, with what follows them. -/
def longEscape? (width : Nat) (cs : List Char) : Option (List Nat × List Char) :=
  if cs.length < width then none
  else match hexNumber? (cs.take width) with
    | some n => if n < 0x110000 then some ([n], cs.drop width) else none
    | none => none

def isOctal (c : Char) : Bool := '0' ≤ c && c ≤ '7'

/-- The code point that at most three octal digits denote, with what follows them. -/
def octalEscape (cs : List Char) : List Nat × List Char :=
  let digits := (cs.take 3).takeWhile isOctal
  ([digits.foldl (fun n c => 8 * n + (c.toNat - 0x30)) 0], cs.drop digits.length)

/-- Characters that no literal of one line holds. -/
def breaksLine (c : Char) : Bool := c == '\n' || c == '\r' || c.toNat == 0

theorem breaksLine_of_printable {c : Char} (printable : Text.isPrintable c = true) :
    breaksLine c = false := by
  rw [breaksLine, Bool.or_eq_false_iff, Bool.or_eq_false_iff]
  refine ⟨⟨?_, ?_⟩, ?_⟩
  · rw [beq_eq_false_iff_ne]
    rintro rfl
    exact absurd printable (by decide)
  · rw [beq_eq_false_iff_ne]
    rintro rfl
    exact absurd printable (by decide)
  · rw [beq_eq_false_iff_ne]
    intro zero
    rw [Text.isPrintable, zero] at printable
    exact absurd printable (by decide)

theorem breaksLine_of_visible {c : Char} (visible : 0x20 ≤ c.toNat) : breaksLine c = false := by
  have other : ∀ d : Char, d.toNat < 0x20 → (c == d) = false := by
    intro d hidden
    rw [beq_eq_false_iff_ne]
    rintro rfl
    exact absurd visible (Nat.not_le.mpr hidden)
  have filled : (c.toNat == 0) = false := by
    rw [beq_eq_false_iff_ne]
    omega
  rw [breaksLine, other '\n' (by decide), other '\r' (by decide), filled]
  rfl

/-- What stands after a backslash: the code points it denotes, with what follows. An escape that
means nothing stands for itself; characters by name are not read. -/
def escape? : List Char → Option (List Nat × List Char)
  | [] => none
  | c :: rest =>
    match shortEscape? c with
    | some n => some ([n], rest)
    | none =>
      if c = 'x' then longEscape? 2 rest
      else if c = 'u' then longEscape? 4 rest
      else if c = 'U' then longEscape? 8 rest
      else if c = 'N' then none
      else if breaksLine c then none
      else if isOctal c then some (octalEscape (c :: rest))
      else some ([0x5c, c.toNat], rest)

theorem longEscape?_length {width : Nat} {cs rest : List Char} {points : List Nat}
    (read : longEscape? width cs = some (points, rest)) : rest.length ≤ cs.length := by
  unfold longEscape? at read
  split at read
  · exact absurd read (by simp)
  · split at read
    · split at read
      · obtain ⟨-, rfl⟩ := Prod.mk.inj (Option.some.inj read)
        simp
      · exact absurd read (by simp)
    · exact absurd read (by simp)

theorem escape?_length {cs rest : List Char} {points : List Nat}
    (read : escape? cs = some (points, rest)) : rest.length ≤ cs.length := by
  cases cs with
  | nil => exact absurd read (by simp [escape?])
  | cons c tail =>
    rw [escape?] at read
    split at read
    · obtain ⟨-, rfl⟩ := Prod.mk.inj (Option.some.inj read)
      simp
    · repeat' split at read
      · exact Nat.le_succ_of_le (longEscape?_length read)
      · exact Nat.le_succ_of_le (longEscape?_length read)
      · exact Nat.le_succ_of_le (longEscape?_length read)
      · exact absurd read (by simp)
      · exact absurd read (by simp)
      · rw [octalEscape] at read
        obtain ⟨-, rfl⟩ := Prod.mk.inj (Option.some.inj read)
        simp
      · obtain ⟨-, rfl⟩ := Prod.mk.inj (Option.some.inj read)
        simp

/-- The code points up to the closing quote, with what follows the quote. -/
def literal? (quote : Char) : List Char → Option (List Nat × List Char)
  | [] => none
  | c :: cs =>
    if c = quote then some ([], cs)
    else if breaksLine c then none
    else if c = '\\' then
      match read : escape? cs with
      | none => none
      | some (points, rest) =>
        have := escape?_length read
        (literal? quote rest).map fun after => (points ++ after.1, after.2)
    else (literal? quote cs).map fun after => (c.toNat :: after.1, after.2)
termination_by cs => cs.length

theorem literal?_length {quote : Char} {cs rest : List Char} {points : List Nat}
    (read : literal? quote cs = some (points, rest)) : rest.length < cs.length := by
  induction cs using literal?.induct quote generalizing points rest with
  | case1 => exact absurd read (by simp [literal?])
  | case2 cs =>
    rw [literal?, if_pos rfl] at read
    obtain ⟨-, rfl⟩ := Prod.mk.inj (Option.some.inj read)
    simp
  | case3 c cs inside broken =>
    rw [literal?, if_neg inside, if_pos broken] at read
    exact absurd read (by simp)
  | case4 cs unread inside whole =>
    rw [literal?, if_neg inside, if_neg whole, if_pos rfl] at read
    split at read
    · exact absurd read (by simp)
    · rename_i escaped
      exact absurd (escaped.symm.trans unread) (by simp)
  | case5 cs points rest escaped shorter inside whole ih =>
    rw [literal?, if_neg inside, if_neg whole, if_pos rfl] at read
    split at read
    · rename_i unread
      exact absurd (unread.symm.trans escaped) (by simp)
    · rename_i again
      obtain ⟨rfl, rfl⟩ := Prod.mk.inj (Option.some.inj (again.symm.trans escaped))
      obtain ⟨after, tail, equal⟩ := Option.map_eq_some_iff.mp read
      obtain ⟨-, rfl⟩ := Prod.mk.inj equal
      have within := ih tail
      simp only [List.length_cons]
      omega
  | case6 c cs inside whole plain ih =>
    rw [literal?, if_neg inside, if_neg whole, if_neg plain] at read
    obtain ⟨after, tail, equal⟩ := Option.map_eq_some_iff.mp read
    obtain ⟨-, rfl⟩ := Prod.mk.inj equal
    exact Nat.lt_succ_of_lt (ih tail)

section Reading

variable {quote c : Char} {cs rest : List Char} {points : List Nat}

/-- A literal that begins with the code points of what has been read. -/
def after (points : List Nat) (read : Option (List Nat × List Char)) :
    Option (List Nat × List Char) :=
  read.map fun tail => (points ++ tail.1, tail.2)

theorem literal?_close : literal? quote (quote :: rest) = some ([], rest) := by
  rw [literal?, if_pos rfl]

theorem literal?_plain (inside : c ≠ quote) (whole : breaksLine c = false) (plain : c ≠ '\\') :
    literal? quote (c :: rest) = after [c.toNat] (literal? quote rest) := by
  rw [literal?, if_neg inside, if_neg (by simp [whole]), if_neg plain]
  rfl

theorem literal?_escape (inside : quote ≠ '\\') (escaped : escape? cs = some (points, rest)) :
    literal? quote ('\\' :: cs) = after points (literal? quote rest) := by
  rw [literal?, if_neg inside.symm, if_neg (by decide), if_pos rfl]
  split
  · rename_i unread
    exact absurd (unread.symm.trans escaped) (by simp)
  · rename_i again
    obtain ⟨rfl, rfl⟩ := Prod.mk.inj (Option.some.inj (again.symm.trans escaped))
    rfl

end Reading

theorem hexNumber?_hexDigits (width n : Nat) :
    hexNumber? (Literal.hexDigits width n) = some (n % 16 ^ width) := by
  have digit : ∀ d < 16, Json.hexValue? (Literal.hexDigit d) = some d := by decide
  induction width generalizing n with
  | zero => simp [hexNumber?, Literal.hexDigits, Nat.mod_one]
  | succ width ih =>
    have last : n % 16 ^ (width + 1) = 16 * (n / 16 % 16 ^ width) + n % 16 := by
      rw [Nat.pow_succ', Nat.mod_mul, Nat.add_comm]
    have front := ih (n / 16)
    rw [hexNumber?] at front
    rw [hexNumber?, Literal.hexDigits, List.foldlM_append, front, last]
    simp [digit (n % 16) (Nat.mod_lt n (by decide))]

theorem hexDigits_length (width n : Nat) : (Literal.hexDigits width n).length = width := by
  induction width generalizing n with
  | zero => rfl
  | succ width ih => simp [Literal.hexDigits, ih]

theorem longEscape?_hexDigits {width n : Nat} (small : n < 16 ^ width) (known : n < 0x110000)
    (rest : List Char) :
    longEscape? width (Literal.hexDigits width n ++ rest) = some ([n], rest) := by
  have digits : (Literal.hexDigits width n ++ rest).take width = Literal.hexDigits width n :=
    List.take_left' (hexDigits_length width n)
  have left : (Literal.hexDigits width n ++ rest).drop width = rest :=
    List.drop_left' (hexDigits_length width n)
  have enough : ¬ (Literal.hexDigits width n ++ rest).length < width := by
    simp [hexDigits_length]
  have number : n % 16 ^ width = n := Nat.mod_eq_of_lt small
  simp only [longEscape?, if_neg enough, digits, left, hexNumber?_hexDigits, number, if_pos known]

theorem escape?_short {c : Char} {n : Nat} (short : shortEscape? c = some n) (rest : List Char) :
    escape? (c :: rest) = some ([n], rest) := by
  rw [escape?, short]

theorem escape?_hexDigits (cs : List Char) :
    escape? ('x' :: cs) = longEscape? 2 cs ∧ escape? ('u' :: cs) = longEscape? 4 cs ∧
      escape? ('U' :: cs) = longEscape? 8 cs := by
  simp [escape?, shortEscape?]

theorem escape?_unit {n : Nat} (small : n < 0x10000) (rest : List Char) :
    escape? ('u' :: (Literal.hexDigits 4 n ++ rest)) = some ([n], rest) := by
  rw [(escape?_hexDigits _).2.1]
  exact longEscape?_hexDigits small (by omega) rest

theorem literal?_escapeChar {c : Char} (small : c.toNat < 0x10000) (rest : List Char) :
    literal? '"' (Json.escapeChar true c ++ rest) = after [c.toNat] (literal? '"' rest) := by
  have unit : literal? '"' (Json.longEscape c ++ rest) = after [c.toNat] (literal? '"' rest) := by
    rw [Json.longEscape, if_pos small]
    exact literal?_escape (by decide) (escape?_unit small rest)
  have letters : ∀ p ∈ Json.ownLetters, shortEscape? p.2 = some p.1.toNat := by decide
  have written := Json.escapeChar_written true c
  generalize Json.escapeChar true c = text at written
  cases written with
  | lettered own => exact literal?_escape (by decide) (escape?_short (letters _ own) rest)
  | numbered => exact unit
  | plain isQuote isBackslash visible =>
    exact literal?_plain isQuote (breaksLine_of_visible visible) isBackslash

theorem literal?_quoted {cs : List Char} (small : ∀ c ∈ cs, c.toNat < 0x10000) (rest : List Char) :
    literal? '"' (cs.flatMap (Json.escapeChar true) ++ '"' :: rest)
      = some (cs.map Char.toNat, rest) := by
  induction cs with
  | nil => exact literal?_close
  | cons c cs ih =>
    rw [List.flatMap_cons, List.append_assoc, literal?_escapeChar (small c List.mem_cons_self),
      ih fun d member => small d (List.mem_cons_of_mem c member)]
    rfl

theorem escapeLabel_cons {c : Char} (isBackslash : c ≠ '\\') (isQuote : c ≠ '"')
    (cs : List Char) : Conversion.escapeLabel (c :: cs) = c :: Conversion.escapeLabel cs := by
  simp [Conversion.escapeLabel, isBackslash, isQuote]

theorem literal?_labelChar {c : Char} (whole : breaksLine c = false) (cs rest : List Char) :
    literal? '"' (Conversion.escapeLabel (c :: cs) ++ rest)
      = after [c.toNat] (literal? '"' (Conversion.escapeLabel cs ++ rest)) := by
  by_cases isBackslash : c = '\\'
  · subst isBackslash
    exact literal?_escape (by decide) rfl
  by_cases isQuote : c = '"'
  · subst isQuote
    exact literal?_escape (by decide) rfl
  rw [escapeLabel_cons isBackslash isQuote]
  exact literal?_plain isQuote whole isBackslash

theorem literal?_label {cs : List Char} (whole : ∀ c ∈ cs, breaksLine c = false)
    (rest : List Char) :
    literal? '"' (Conversion.escapeLabel cs ++ '"' :: rest) = some (cs.map Char.toNat, rest) := by
  induction cs with
  | nil => exact literal?_close
  | cons c cs ih =>
    rw [literal?_labelChar (whole c List.mem_cons_self),
      ih fun d member => whole d (List.mem_cons_of_mem c member)]
    rfl

/-- The character of a code point. -/
def charOf? (n : Nat) : Option Char := if n.isValidChar then some (Char.ofNat n) else none

def textOf? (points : List Nat) : Option String := (points.mapM charOf?).map String.ofList

theorem charOf?_toNat (c : Char) : charOf? c.toNat = some c := by
  have valid : c.toNat.isValidChar := c.valid
  rw [charOf?, if_pos valid, Char.ofNat_toNat]

theorem textOf?_toNat (cs : List Char) : textOf? (cs.map Char.toNat) = some (String.ofList cs) := by
  have chars : (cs.map Char.toNat).mapM charOf? = some cs := by
    induction cs with
    | nil => rfl
    | cons c cs ih => simp [List.mapM_cons, charOf?_toNat, ih]
  rw [textOf?, chars]
  rfl

/-! ### Tokens

The tokens of a line: words, text literals and marks. Blanks separate tokens and are left out.
-/

/-- A token. -/
inductive Token where
  | word (name : String)
  | text (value : String)
  | mark (c : Char)
  deriving DecidableEq, Repr

def isWordChar (c : Char) : Bool := c.isAlphanum || c == '_'

/-- Whether a character begins and ends a literal. -/
def isQuote (c : Char) : Bool := c == '"' || c == '\''

def isMark (c : Char) : Bool := ['(', ')', '[', ']', '.', ',', ':', '='].contains c

/-- The tokens of some characters; `none` where a character begins no token. -/
def tokens? : List Char → Option (List Token)
  | [] => some []
  | c :: cs =>
    if c = ' ' then tokens? cs
    else if isWordChar c then
      have := (List.dropWhile_suffix isWordChar (l := cs)).length_le
      (tokens? (cs.dropWhile isWordChar)).map
        (.word (String.ofList (c :: cs.takeWhile isWordChar)) :: ·)
    else if isQuote c then
      match read : literal? c cs with
      | none => none
      | some (points, rest) =>
        have := literal?_length read
        match textOf? points with
        | none => none
        | some value => (tokens? rest).map (.text value :: ·)
    else if isMark c then (tokens? cs).map (.mark c :: ·)
    else none
termination_by cs => cs.length

def endsWord : List Char → Bool
  | [] => true
  | c :: _ => !isWordChar c

def isWord (name : String) : Bool := name.toList.all isWordChar && name != ""

variable {c : Char} {rest : List Char}

theorem tokens?_nil : tokens? [] = some [] := by rw [tokens?]

theorem tokens?_blank : tokens? (' ' :: rest) = tokens? rest := by
  rw [tokens?, if_pos rfl]

theorem tokens?_mark (mark : isMark c = true) :
    tokens? (c :: rest) = (tokens? rest).map (.mark c :: ·) := by
  have marks : ['(', ')', '[', ']', '.', ',', ':', '='].all
      (fun d => d != ' ' && !isWordChar d && !isQuote d) = true := by decide
  have apart := List.all_eq_true.mp marks c (by simpa [isMark] using mark)
  simp only [Bool.and_eq_true, bne_iff_ne, ne_eq, Bool.not_eq_true'] at apart
  obtain ⟨⟨solid, single⟩, unquoted⟩ := apart
  rw [tokens?, if_neg solid, if_neg (by simp [single]), if_neg (by simp [unquoted]), if_pos mark]

theorem tokens?_word {name : String} (word : isWord name = true) (ends : endsWord rest = true) :
    tokens? (name.toList ++ rest) = (tokens? rest).map (.word name :: ·) := by
  simp only [isWord, Bool.and_eq_true, List.all_eq_true, bne_iff_ne, ne_eq] at word
  obtain ⟨chars, filled⟩ := word
  obtain ⟨c, cs, spelt⟩ : ∃ c cs, name.toList = c :: cs :=
    List.exists_cons_of_ne_nil (by simpa using filled)
  have first : isWordChar c = true := chars c (by simp [spelt])
  have others : ∀ d ∈ cs, isWordChar d = true := fun d member => chars d (by simp [spelt, member])
  have solid : c ≠ ' ' := by
    rintro rfl
    exact absurd first (by decide)
  have taken : (cs ++ rest).takeWhile isWordChar = cs := by
    rw [List.takeWhile_append_of_pos others]
    cases rest with
    | nil => simp
    | cons d rest =>
      have clear : isWordChar d = false := by simpa [endsWord] using ends
      simp [clear]
  have dropped : (cs ++ rest).dropWhile isWordChar = rest := by
    rw [List.dropWhile_append_of_pos others]
    cases rest with
    | nil => rfl
    | cons d rest =>
      have clear : isWordChar d = false := by simpa [endsWord] using ends
      simp [clear]
  rw [spelt, List.cons_append, tokens?, if_neg solid, if_pos first, taken, dropped, ← spelt,
    String.ofList_toList]

theorem tokens?_text {quote : Char} {cs : List Char} {points : List Nat} {value : String}
    (isquote : isQuote quote = true) (read : literal? quote cs = some (points, rest))
    (text : textOf? points = some value) :
    tokens? (quote :: cs) = (tokens? rest).map (.text value :: ·) := by
  have quotes : ['"', '\''].all (fun d => d != ' ' && !isWordChar d) = true := by decide
  have apart := List.all_eq_true.mp quotes quote (by simpa [isQuote] using isquote)
  simp only [Bool.and_eq_true, bne_iff_ne, ne_eq, Bool.not_eq_true'] at apart
  obtain ⟨solid, single⟩ := apart
  rw [tokens?, if_neg solid, if_neg (by simp [single]), if_pos isquote]
  split
  · rename_i unread
    exact absurd (unread.symm.trans read) (by simp)
  · rename_i again
    obtain ⟨rfl, rfl⟩ := Prod.mk.inj (Option.some.inj (again.symm.trans read))
    simp only [text]

theorem tokens?_quote {s : String} (small : ∀ c ∈ s.toList, c.toNat < 0x10000) (rest : List Char) :
    tokens? ((Json.quote s).toList ++ rest) = (tokens? rest).map (.text s :: ·) := by
  have chars : (Json.quote s).toList ++ rest
      = '"' :: (s.toList.flatMap (Json.escapeChar true) ++ '"' :: rest) := by
    simp [Json.quote, Json.quoteWith]
  rw [chars]
  refine tokens?_text rfl (literal?_quoted small rest) ?_
  rw [textOf?_toNat, String.ofList_toList]

theorem tokens?_label {s : String} (whole : ∀ c ∈ s.toList, breaksLine c = false)
    (rest : List Char) :
    tokens? ((Conversion.quoteLabel s).toList ++ rest) = (tokens? rest).map (.text s :: ·) := by
  have chars : (Conversion.quoteLabel s).toList ++ rest
      = '"' :: (Conversion.escapeLabel s.toList ++ '"' :: rest) := by
    simp [Conversion.quoteLabel]
  rw [chars]
  refine tokens?_text rfl (literal?_label whole rest) ?_
  rw [textOf?_toNat, String.ofList_toList]

end ServiceCli.Script
