import Mathlib.Tactic.SplitIfs
import ServiceCli.Proofs.Outcome
import ServiceCli.Text.Utf8

/-!
UTF-8 as a table of byte ranges. A character is formed by one to four bytes, whose ranges leave out
the forms that are longer than needed, halves of surrogate pairs and what lies beyond the last code
point; the strict reader takes exactly these.

Main statement: `decode_eq_ok_iff`, a text is read from bytes exactly when these encode it. What
the reader refuses is thus the encoding of no text at all.
-/

set_option autoImplicit false
set_option relaxedAutoImplicit false

namespace ServiceCli.Text

open String (utf8EncodeChar)
open Outcome (bind_eq_ok pure_eq_ok)

def encodeList (cs : List Char) : List UInt8 := cs.flatMap utf8EncodeChar

private theorem loop_eq (bytes : ByteArray) (done rest before : List UInt8)
    (same : bytes.data.toList = done ++ rest) :
    ByteArray.toList.loop bytes done.length before = before.reverse ++ rest := by
  have size : bytes.size = done.length + rest.length := by
    rw [ByteArray.size, ← Array.length_toList, same, List.length_append]
  induction rest generalizing done before with
  | nil => rw [ByteArray.toList.loop, if_neg (by simp [size]), List.append_nil]
  | cons b rest ih =>
    have inside : done.length < bytes.size := by simp [size]
    have here : bytes.get! done.length = b := by
      rw [ByteArray.get!, getElem!_def, ← Array.getElem?_toList, same]
      simp
    have next := ih (done ++ [b]) (b :: before) (by simp [same]) (by simp [size]; omega)
    rw [List.length_append, List.length_singleton] at next
    rw [ByteArray.toList.loop, if_pos inside, here, next, List.reverse_cons, List.append_assoc]
    rfl

theorem encode_eq (s : String) : encode s = encodeList s.toList := by
  rw [encode, String.toUTF8_eq_toByteArray, ← String.utf8Encode_toList, ByteArray.toList]
  exact loop_eq _ [] _ [] List.toList_data_toByteArray

/-! ### The bytes of one character -/

/-- The least second byte after a first one: it excludes forms that are longer than needed. -/
def leastSecond (first : Nat) : Nat :=
  if first = 0xe0 then 0xa0 else if first = 0xf0 then 0x90 else 0x80

/-- The greatest second byte after a first one: it excludes halves of surrogate pairs and numbers
beyond the last code point. -/
def greatestSecond (first : Nat) : Nat :=
  if first = 0xed then 0x9f else if first = 0xf4 then 0x8f else 0xbf

/-- The bytes that form a character, with its number. -/
inductive Forms : List UInt8 → Nat → Prop
  | one {a : UInt8} (small : a.toNat < 0x80) : Forms [a] a.toNat
  | two {a b : UInt8} (low : 0xc2 ≤ a.toNat) (high : a.toNat < 0xe0)
      (second : 0x80 ≤ b.toNat ∧ b.toNat < 0xc0) :
    Forms [a, b] ((a.toNat - 0xc0) * 0x40 + (b.toNat - 0x80))
  | three {a b c : UInt8} (low : 0xe0 ≤ a.toNat) (high : a.toNat < 0xf0)
      (second : leastSecond a.toNat ≤ b.toNat ∧ b.toNat ≤ greatestSecond a.toNat)
      (third : 0x80 ≤ c.toNat ∧ c.toNat < 0xc0) :
    Forms [a, b, c] (((a.toNat - 0xe0) * 0x40 + (b.toNat - 0x80)) * 0x40 + (c.toNat - 0x80))
  | four {a b c d : UInt8} (low : 0xf0 ≤ a.toNat) (high : a.toNat < 0xf5)
      (second : leastSecond a.toNat ≤ b.toNat ∧ b.toNat ≤ greatestSecond a.toNat)
      (third : 0x80 ≤ c.toNat ∧ c.toNat < 0xc0) (fourth : 0x80 ≤ d.toNat ∧ d.toNat < 0xc0) :
    Forms [a, b, c, d]
      ((((a.toNat - 0xf0) * 0x40 + (b.toNat - 0x80)) * 0x40 + (c.toNat - 0x80)) * 0x40
        + (d.toNat - 0x80))

private theorem val_ofNat {n : Nat} (valid : n.isValidChar) : (Char.ofNat n).val.toNat = n := by
  rw [Char.ofNat, dif_pos valid]
  rfl

private theorem ofNat_eq {n : Nat} {b : UInt8} (same : n = b.toNat) : UInt8.ofNat n = b := by
  rw [same, UInt8.ofNat_toNat]

theorem three_bounds {first second : Nat} (low : 0xe0 ≤ first) (high : first < 0xf0)
    (h : leastSecond first ≤ second ∧ second ≤ greatestSecond first) :
    0x80 ≤ second ∧ second < 0xc0 ∧ 0x20 ≤ (first - 0xe0) * 0x40 + (second - 0x80) ∧
      ((first - 0xe0) * 0x40 + (second - 0x80) < 0x360 ∨
        0x380 ≤ (first - 0xe0) * 0x40 + (second - 0x80)) := by
  unfold leastSecond greatestSecond at h
  split_ifs at h <;> omega

theorem four_bounds {first second : Nat} (low : 0xf0 ≤ first) (high : first < 0xf5)
    (h : leastSecond first ≤ second ∧ second ≤ greatestSecond first) :
    0x80 ≤ second ∧ second < 0xc0 ∧ 0x10 ≤ (first - 0xf0) * 0x40 + (second - 0x80) ∧
      (first - 0xf0) * 0x40 + (second - 0x80) < 0x110 := by
  unfold leastSecond greatestSecond at h
  split_ifs at h <;> omega

theorem Forms.valid {bytes : List UInt8} {n : Nat} (h : Forms bytes n) : n.isValidChar := by
  unfold Nat.isValidChar
  cases h with
  | one small => omega
  | two low high second => omega
  | three low high second third => have := three_bounds low high second; omega
  | four low high second third fourth => have := four_bounds low high second; omega

theorem Forms.ne_nil {bytes : List UInt8} {n : Nat} (h : Forms bytes n) : bytes ≠ [] := by
  cases h <;> exact List.cons_ne_nil _ _

theorem Forms.encodes {bytes : List UInt8} {n : Nat} (h : Forms bytes n) :
    utf8EncodeChar (Char.ofNat n) = bytes := by
  rw [utf8EncodeChar.eq_1, val_ofNat h.valid]
  cases h with
  | one small => rw [if_pos (by omega), ofNat_eq rfl]
  | two low high second =>
    rw [if_neg (by omega), if_pos (by omega)]
    simp only [List.cons.injEq]
    exact ⟨ofNat_eq (by omega), ofNat_eq (by omega), trivial⟩
  | three low high second third =>
    have bounds := three_bounds low high second
    rw [if_neg (by omega), if_neg (by omega), if_pos (by omega)]
    simp only [List.cons.injEq]
    exact ⟨ofNat_eq (by omega), ofNat_eq (by omega), ofNat_eq (by omega), trivial⟩
  | four low high second third fourth =>
    have bounds := four_bounds low high second
    rw [if_neg (by omega), if_neg (by omega), if_neg (by omega)]
    simp only [List.cons.injEq]
    exact ⟨ofNat_eq (by omega), ofNat_eq (by omega), ofNat_eq (by omega), ofNat_eq (by omega),
      trivial⟩

theorem Forms.cast {bytes : List UInt8} {m n : Nat} (h : Forms bytes m) (same : m = n) :
    Forms bytes n := same ▸ h

private theorem number_ofNat {n : Nat} (small : n < 0x100) : (UInt8.ofNat n).toNat = n :=
  UInt8.toNat_ofNat_of_lt small

private theorem fits_two {first second : Nat} (high : first < 0xe0) :
    leastSecond first ≤ second ∧ second ≤ greatestSecond first ↔ 0x80 ≤ second ∧ second < 0xc0 := by
  unfold leastSecond greatestSecond
  split_ifs <;> omega

private theorem fits {first second : Nat} (low : 0x80 ≤ second) (high : second < 0xc0)
    (h0 : first = 0xe0 → 0xa0 ≤ second) (h1 : first = 0xf0 → 0x90 ≤ second)
    (h2 : first = 0xed → second ≤ 0x9f) (h3 : first = 0xf4 → second ≤ 0x8f) :
    leastSecond first ≤ second ∧ second ≤ greatestSecond first := by
  unfold leastSecond greatestSecond
  split_ifs <;> omega

theorem forms_encodeChar (c : Char) : Forms (utf8EncodeChar c) c.toNat := by
  have valid : c.val.toNat.isValidChar := c.valid
  unfold Nat.isValidChar at valid
  rw [utf8EncodeChar.eq_1, Char.toNat]
  generalize c.val.toNat = n at *
  split_ifs with h1 h2 h3
  · have first : (UInt8.ofNat n).toNat = n := number_ofNat (by omega)
    exact .cast (.one (by omega)) first
  · have first : (UInt8.ofNat (n / 64 % 32 + 192)).toNat = _ := number_ofNat (by omega)
    have second : (UInt8.ofNat (n % 64 + 128)).toNat = _ := number_ofNat (by omega)
    exact .cast (.two (by omega) (by omega) (by omega)) (by omega)
  · have first : (UInt8.ofNat (n / 4096 % 16 + 224)).toNat = _ := number_ofNat (by omega)
    have second : (UInt8.ofNat (n / 64 % 64 + 128)).toNat = _ := number_ofNat (by omega)
    have third : (UInt8.ofNat (n % 64 + 128)).toNat = _ := number_ofNat (by omega)
    exact .cast (.three (by omega) (by omega)
      (fits (by omega) (by omega) (by omega) (by omega) (by omega) (by omega)) (by omega))
      (by omega)
  · have first : (UInt8.ofNat (n / 262144 % 8 + 240)).toNat = _ := number_ofNat (by omega)
    have second : (UInt8.ofNat (n / 4096 % 64 + 128)).toNat = _ := number_ofNat (by omega)
    have third : (UInt8.ofNat (n / 64 % 64 + 128)).toNat = _ := number_ofNat (by omega)
    have fourth : (UInt8.ofNat (n % 64 + 128)).toNat = _ := number_ofNat (by omega)
    exact .cast (.four (by omega) (by omega)
      (fits (by omega) (by omega) (by omega) (by omega) (by omega) (by omega)) (by omega)
      (by omega)) (by omega)

/-! ### The head of some bytes -/

private theorem isContinuation_iff {b : UInt8} :
    isContinuation b = true ↔ 0x80 ≤ b.toNat ∧ b.toNat < 0xc0 := by
  simp [isContinuation, UInt8.le_iff_toNat_le, UInt8.lt_iff_toNat_lt]

private theorem secondRange_iff {a b : UInt8} :
    (secondRange a).1.toNat ≤ b.toNat ∧ b.toNat ≤ (secondRange a).2.toNat ↔
      leastSecond a.toNat ≤ b.toNat ∧ b.toNat ≤ greatestSecond a.toNat := by
  unfold secondRange leastSecond greatestSecond
  simp only [beq_iff_eq, ← UInt8.toNat_inj, UInt8.reduceToNat]
  split_ifs <;> simp_all

private theorem headOf_eq (a : UInt8) (rest : List UInt8) : headOf a rest =
    if a < 0x80 then .char (Char.ofNat a.toNat) 1
    else if a < 0xc2 || 0xf5 ≤ a then .bad .badStart 1
    else match rest with
      | [] => .bad .unexpectedEnd 1
      | b :: rest =>
        if !((secondRange a).1 ≤ b && b ≤ (secondRange a).2) then .bad .badContinuation 1
        else if a < 0xe0 then
          .char (Char.ofNat ((a.toNat - 0xc0) * 0x40 + (b.toNat - 0x80))) 2
        else match rest with
          | [] => .bad .unexpectedEnd 2
          | c :: rest =>
            if !isContinuation c then .bad .badContinuation 2
            else if a < 0xf0 then
              .char (Char.ofNat (((a.toNat - 0xe0) * 0x40 + (b.toNat - 0x80)) * 0x40
                + (c.toNat - 0x80))) 3
            else match rest with
              | [] => .bad .unexpectedEnd 3
              | d :: _ =>
                if !isContinuation d then .bad .badContinuation 3
                else .char (Char.ofNat ((((a.toNat - 0xf0) * 0x40 + (b.toNat - 0x80)) * 0x40
                  + (c.toNat - 0x80)) * 0x40 + (d.toNat - 0x80))) 4 := rfl

private theorem not_eq_true {b : Bool} : (!b) = true ↔ ¬b = true := by simp

theorem forms_of_headOf {a : UInt8} {rest : List UInt8} {char : Char} {size : Nat}
    (h : headOf a rest = .char char size) :
    ∃ bytes tail n, Forms bytes n ∧ a :: rest = bytes ++ tail ∧ Char.ofNat n = char ∧
      bytes.length = size := by
  rw [headOf_eq] at h
  simp only [UInt8.le_iff_toNat_le, UInt8.lt_iff_toNat_lt, UInt8.reduceToNat, not_eq_true,
    Bool.or_eq_true, Bool.and_eq_true, decide_eq_true_eq, secondRange_iff, isContinuation_iff] at h
  by_cases one : a.toNat < 0x80
  · rw [if_pos one, Head.char.injEq] at h
    exact ⟨[a], rest, _, .one one, rfl, h⟩
  by_cases two : a.toNat < 0xe0
  · rcases rest with _ | ⟨b, tail⟩ <;> dsimp only at h
    · split_ifs at h
    split_ifs at h with start second
    rw [Head.char.injEq] at h
    rw [fits_two two] at second
    exact ⟨[a, b], tail, _, .two (by omega) two second, rfl, h⟩
  by_cases three : a.toNat < 0xf0
  · rcases rest with _ | ⟨b, _ | ⟨c, tail⟩⟩ <;> dsimp only at h
    · split_ifs at h
    · split_ifs at h
    split_ifs at h with start second third
    rw [Head.char.injEq] at h
    exact ⟨[a, b, c], tail, _, .three (by omega) three second third, rfl, h⟩
  · rcases rest with _ | ⟨b, _ | ⟨c, _ | ⟨d, tail⟩⟩⟩ <;> dsimp only at h
    · split_ifs at h
    · split_ifs at h
    · split_ifs at h
    split_ifs at h with start second third fourth
    rw [Head.char.injEq] at h
    exact ⟨[a, b, c, d], tail, _, .four (by omega) (by omega) second third fourth, rfl, h⟩

theorem headOf_of_forms {a : UInt8} {more : List UInt8} {n : Nat} (h : Forms (a :: more) n)
    (tail : List UInt8) :
    headOf a (more ++ tail) = .char (Char.ofNat n) (more.length + 1) := by
  rw [headOf_eq]
  simp only [UInt8.le_iff_toNat_le, UInt8.lt_iff_toNat_lt, UInt8.reduceToNat, not_eq_true,
    Bool.or_eq_true, Bool.and_eq_true, decide_eq_true_eq, secondRange_iff, isContinuation_iff]
  cases h with
  | one small => rw [if_pos small]; rfl
  | two low high second =>
    rw [if_neg (by omega), if_neg (by omega)]
    dsimp only [List.cons_append]
    rw [if_neg (not_not_intro ((fits_two high).mpr second)), if_pos high]
    rfl
  | three low high second third =>
    rw [if_neg (by omega), if_neg (by omega)]
    dsimp only [List.cons_append]
    rw [if_neg (not_not_intro second), if_neg (by omega), if_neg (not_not_intro third),
      if_pos high]
    rfl
  | four low high second third fourth =>
    rw [if_neg (by omega), if_neg (by omega)]
    dsimp only [List.cons_append]
    rw [if_neg (not_not_intro second), if_neg (by omega), if_neg (not_not_intro third),
      if_neg (by omega), if_neg (not_not_intro fourth)]
    rfl

/-- The bytes of a character, and nothing else, have this character at their head. -/
theorem headOf_eq_char {a : UInt8} {rest : List UInt8} {char : Char} {size : Nat} :
    headOf a rest = .char char size ↔
      ∃ tail, a :: rest = utf8EncodeChar char ++ tail ∧ (utf8EncodeChar char).length = size := by
  constructor
  · intro h
    obtain ⟨bytes, tail, n, forms, same, rfl, rfl⟩ := forms_of_headOf h
    exact ⟨tail, by rw [forms.encodes, same], by rw [forms.encodes]⟩
  · rintro ⟨tail, same, rfl⟩
    have forms := forms_encodeChar char
    obtain ⟨more, shape⟩ : ∃ more, utf8EncodeChar char = a :: more := by
      cases bytes : utf8EncodeChar char with
      | nil => exact absurd bytes forms.ne_nil
      | cons b more => exact ⟨more, by rw [bytes, List.cons_append] at same; grind⟩
    rw [shape] at same forms ⊢
    obtain rfl : rest = more ++ tail := List.tail_eq_of_cons_eq same
    rw [headOf_of_forms forms, List.length_cons, Char.ofNat_toNat]

/-! ### A text and its bytes -/

theorem encodeList_cons (c : Char) (cs : List Char) :
    encodeList (c :: cs) = utf8EncodeChar c ++ encodeList cs := rfl

theorem decodeFrom_skip (index : Nat) (passed rest : List UInt8) :
    decodeFrom index passed.length (passed ++ rest) =
      decodeFrom (index + passed.length) 0 rest := by
  induction passed generalizing index with
  | nil => rfl
  | cons b passed ih =>
    rw [List.cons_append, List.length_cons, decodeFrom, ih, Nat.add_right_comm, Nat.add_assoc]

private theorem decodeFrom_past {b : UInt8} {rest bytes tail : List UInt8} (index : Nat)
    (same : b :: rest = bytes ++ tail) (more : bytes ≠ []) :
    decodeFrom (index + 1) (bytes.length - 1) rest =
      decodeFrom (index + bytes.length) 0 tail := by
  obtain ⟨a, passed, rfl⟩ := List.exists_cons_of_ne_nil more
  obtain rfl : rest = passed ++ tail := List.tail_eq_of_cons_eq same
  rw [List.length_cons, Nat.add_sub_cancel, decodeFrom_skip, Nat.add_right_comm, Nat.add_assoc]

theorem decodeFrom_eq_nil {index : Nat} {bytes : List UInt8} :
    decodeFrom index 0 bytes = .ok [] ↔ bytes = [] := by
  cases bytes with
  | nil => simp [decodeFrom]
  | cons b rest =>
    rw [decodeFrom]
    cases headOf b rest with
    | char c size =>
      simp only [bind_eq_ok, pure_eq_ok, reduceCtorEq, and_false, exists_false]
    | bad problem size => simp only [reduceCtorEq]

theorem decodeFrom_eq_cons {index : Nat} {bytes : List UInt8} {c : Char} {cs : List Char} :
    decodeFrom index 0 bytes = .ok (c :: cs) ↔
      ∃ tail, bytes = utf8EncodeChar c ++ tail ∧
        decodeFrom (index + (utf8EncodeChar c).length) 0 tail = .ok cs := by
  have more : utf8EncodeChar c ≠ [] := (forms_encodeChar c).ne_nil
  cases bytes with
  | nil => simp [decodeFrom, more]
  | cons b rest =>
    rw [decodeFrom]
    constructor
    · intro h
      cases found : headOf b rest with
      | bad problem size => rw [found] at h; cases h
      | char d size =>
        simp only [found, bind_eq_ok, pure_eq_ok, List.cons.injEq] at h
        obtain ⟨_, read, rfl, rfl⟩ := h
        obtain ⟨tail, same, rfl⟩ := headOf_eq_char.mp found
        exact ⟨tail, same, by rw [← read, decodeFrom_past index same more]⟩
    · rintro ⟨tail, same, read⟩
      rw [headOf_eq_char.mpr ⟨tail, same, rfl⟩]
      dsimp only
      rw [decodeFrom_past index same more, read]
      rfl

/-- Characters are read from bytes exactly when these encode them. -/
theorem decodeFrom_eq_ok {index : Nat} {bytes : List UInt8} {cs : List Char} :
    decodeFrom index 0 bytes = .ok cs ↔ bytes = encodeList cs := by
  induction cs generalizing index bytes with
  | nil => exact decodeFrom_eq_nil
  | cons c cs ih =>
    rw [decodeFrom_eq_cons, encodeList_cons]
    simp only [ih, exists_eq_right]

/-- A text is read from bytes exactly when these encode it. -/
theorem decode_eq_ok_iff {bytes : List UInt8} {s : String} :
    decode bytes = .ok s ↔ encode s = bytes := by
  have read : decodeFrom 0 0 bytes = .ok s.toList ↔ bytes = encodeList s.toList :=
    decodeFrom_eq_ok
  rw [encode_eq, eq_comm (b := bytes), ← read, decode]
  cases decodeFrom 0 0 bytes with
  | error e => simp only [Except.map, reduceCtorEq]
  | ok cs => simp only [Except.map, Except.ok.injEq, ← String.toList_inj, String.toList_ofList]

end ServiceCli.Text
