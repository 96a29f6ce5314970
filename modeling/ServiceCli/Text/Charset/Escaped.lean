import ServiceCli.Text.Charset.Basic

set_option autoImplicit false
set_option relaxedAutoImplicit false

namespace ServiceCli.Text

def hexDigit? (b : UInt8) : Option Nat :=
  if 0x30 ≤ b && b ≤ 0x39 then some (b.toNat - 0x30)
  else if 0x41 ≤ b && b ≤ 0x46 then some (b.toNat - 0x41 + 10)
  else if 0x61 ≤ b && b ≤ 0x66 then some (b.toNat - 0x61 + 10)
  else none

def octalDigit? (b : UInt8) : Option Nat :=
  if 0x30 ≤ b && b ≤ 0x37 then some (b.toNat - 0x30) else none

/-- The digits at the head of bytes, so many at most. -/
def digitsOf (digit? : UInt8 → Option Nat) : Nat → List UInt8 → List Nat
  | 0, _ => []
  | _, [] => []
  | count + 1, b :: rest => (digit? b).elim [] fun d => d :: digitsOf digit? count rest

def ofDigits (base : Nat) (digits : List Nat) : Nat := digits.foldl (· * base + ·) 0

def lastCodePoint : Nat := 0x10ffff

/-- An escape of a letter and so many hexadecimal digits, given what follows the letter. -/
def hexEscape (count : Nat) (rest : List UInt8) : Step :=
  let digits := digitsOf hexDigit? count rest
  let number := ofDigits 16 digits
  let size := 2 + digits.length
  if digits.length = count && number ≤ lastCodePoint then .char size number else .nothing size

def letterEscapes : List (Char × Nat) := [
  ('\\', 0x5c), ('\'', 0x27), ('"', 0x22), ('b', 8), ('f', 12), ('t', 9), ('n', 10), ('r', 13),
  ('v', 11), ('a', 7)]

/-- An escape of a name in braces, given what follows the letter. -/
def nameEscape : List UInt8 → Step
  | 0x7b :: rest =>
    match rest.takeWhile (· != 0x7d), rest.dropWhile (· != 0x7d) with
    | [], _ :: _ => .nothing 3
    | name, [] => .nothing (3 + name.length)
    | name, _ => .nothing (4 + name.length)
  | _ => .nothing 2

/-- An escape, given what follows the backslash. -/
def escapeStep : List UInt8 → Step
  | [] => .nothing 1
  | b :: rest =>
    let letter := Char.ofNat b.toNat
    match letterEscapes.lookup letter, digitsOf octalDigit? 3 (b :: rest) with
    | some number, _ => .char 2 number
    | none, digit :: digits =>
      .char (2 + digits.length) (ofDigits 8 (digit :: digits))
    | none, [] =>
      match letter with
      | '\n' => .chars 2 []
      | 'x' => hexEscape 2 rest
      | 'u' => hexEscape 4 rest
      | 'U' => hexEscape 8 rest
      | 'N' => nameEscape rest
      | _ => .chars 2 [0x5c, b.toNat]

/-- A raw escape, given what follows the backslash. -/
def rawEscapeStep : List UInt8 → Step
  | [] => .char 1 0x5c
  | b :: rest =>
    match Char.ofNat b.toNat with
    | 'u' => hexEscape 4 rest
    | 'U' => hexEscape 8 rest
    | _ => .chars 2 [0x5c, b.toNat]

def escapedStep (escape : List UInt8 → Step) (b : UInt8) (rest : List UInt8) : Step :=
  if b == 0x5c then escape rest else .char 1 b.toNat

def escapedCharsets : List Charset := [
  { name := "unicode_escape", aliases := [], read := readEach (escapedStep escapeStep) },
  { name := "raw_unicode_escape", aliases := [], read := readEach (escapedStep rawEscapeStep) }]

end ServiceCli.Text
