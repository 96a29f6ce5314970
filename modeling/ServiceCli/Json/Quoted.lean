import ServiceCli.Literal.Quoted
import ServiceCli.Text.Character

set_option autoImplicit false
set_option relaxedAutoImplicit false

namespace ServiceCli.Json

open ServiceCli.Literal ServiceCli.Text

def unitEscape (n : Nat) : List Char := '\\' :: 'u' :: hexDigits 4 n

/-- The escape of a character: one unit, or the two halves of a surrogate pair. -/
def longEscape (c : Char) : List Char :=
  let n := c.toNat
  if n < 0x10000 then unitEscape n
  else
    let m := n - 0x10000
    unitEscape (0xd800 + m / 0x400) ++ unitEscape (0xdc00 + m % 0x400)

def escapeChar (asciiOnly : Bool) (c : Char) : List Char :=
  if c == '"' then ['\\', '"']
  else if c == '\\' then ['\\', '\\']
  else if c == '\n' then ['\\', 'n']
  else if c == '\r' then ['\\', 'r']
  else if c == '\t' then ['\\', 't']
  else if c.toNat == 0x0c then ['\\', 'f']
  else if c.toNat == 0x08 then ['\\', 'b']
  else if c.toNat < 0x20 then longEscape c
  else if asciiOnly && 0x7f ≤ c.toNat then longEscape c
  else [c]

def quoteWith (asciiOnly : Bool) (cs : List Char) : List Char :=
  '"' :: cs.flatMap (escapeChar asciiOnly) ++ ['"']

/-- The quoted string of a text, in ASCII characters only. -/
def quote (s : String) : String := String.ofList (quoteWith true s.toList)

/-- What is wrong with a text that should be JSON. -/
inductive Problem where
  | byteOrderMark
  | expectingValue
  | extraData
  | expectingName
  | expectingColon
  | expectingComma
  | unterminatedString
  | controlCharacter
  | badEscape
  | badUnitEscape
  | tooManyDigits (count : Nat)
  deriving DecidableEq, Repr

def Problem.message : Problem → String
  | .byteOrderMark => "Unexpected UTF-8 BOM (decode using utf-8-sig)"
  | .expectingValue => "Expecting value"
  | .extraData => "Extra data"
  | .expectingName => "Expecting property name enclosed in double quotes"
  | .expectingColon => "Expecting ':' delimiter"
  | .expectingComma => "Expecting ',' delimiter"
  | .unterminatedString => "Unterminated string starting at"
  | .controlCharacter => "Invalid control character at"
  | .badEscape => "Invalid \\escape"
  | .badUnitEscape => "Invalid \\uXXXX escape"
  | .tooManyDigits count =>
    s!"Exceeds the limit (4300 digits) for integer string conversion: value has {count} digits; "
      ++ "use sys.set_int_max_str_digits() to increase the limit"

def Problem.isOfGrammar : Problem → Bool
  | .tooManyDigits _ => false
  | _ => true

/-- A problem, and the number of characters left of the text where it was found. -/
structure Stop where
  problem : Problem
  left : Nat
  deriving DecidableEq, Repr

def hexValue? (c : Char) : Option Nat :=
  if '0' ≤ c && c ≤ '9' then some (c.toNat - 0x30)
  else if 'a' ≤ c && c ≤ 'f' then some (c.toNat - 0x57)
  else if 'A' ≤ c && c ≤ 'F' then some (c.toNat - 0x37)
  else none

/-- The sixteen-bit unit that four hexadecimal digits denote. -/
def unitValue? (a b c d : Char) : Option Nat :=
  match hexValue? a, hexValue? b, hexValue? c, hexValue? d with
  | some w, some x, some y, some z => some (((w * 16 + x) * 16 + y) * 16 + z)
  | _, _, _, _ => none

def shortEscape? (c : Char) : Option Char :=
  match c with
  | '"' => some '"'
  | '\\' => some '\\'
  | '/' => some '/'
  | 'b' => some (Char.ofNat 8)
  | 'f' => some (Char.ofNat 12)
  | 'n' => some '\n'
  | 'r' => some '\r'
  | 't' => some '\t'
  | _ => none

/-- A string up to its closing quote, with what follows the quote. `start` is the number of
characters left at the opening quote, where an unterminated string is reported. The escape of half
of a surrogate pair that stands alone is read as U+FFFD: a text here holds characters only, where a
JSON string may hold such a half. -/
def readString (start : Nat) : List Char → Except Stop (List Char × List Char)
  | [] => .error ⟨.unterminatedString, start⟩
  | '"' :: rest => .ok ([], rest)
  | '\\' :: 'u' :: a :: b :: c :: d :: '\\' :: 'u' :: e :: f :: g :: h :: z :: rest =>
    match unitValue? a b c d with
    | none => .error ⟨.badUnitEscape, rest.length + 12⟩
    | some high =>
      -- only after a first half does the escape that follows belong to this character
      if isHighHalf high then
        match unitValue? e f g h with
        | none => .error ⟨.badUnitEscape, rest.length + 6⟩
        | some low =>
          if isLowHalf low then do
            let (cs, tail) ← readString start (z :: rest)
            return (pairChar high low :: cs, tail)
          else do
            let (cs, tail) ← readString start ('\\' :: 'u' :: e :: f :: g :: h :: z :: rest)
            return (charOf high :: cs, tail)
      else do
        let (cs, tail) ← readString start ('\\' :: 'u' :: e :: f :: g :: h :: z :: rest)
        return (charOf high :: cs, tail)
  | '\\' :: 'u' :: a :: b :: c :: d :: z :: rest =>
    match unitValue? a b c d with
    | none => .error ⟨.badUnitEscape, rest.length + 6⟩
    | some n => do
      let (cs, tail) ← readString start (z :: rest)
      return (charOf n :: cs, tail)
  | '\\' :: 'u' :: rest => .error ⟨.badUnitEscape, rest.length + 1⟩
  | ['\\'] => .error ⟨.unterminatedString, start⟩
  | '\\' :: e :: rest =>
    match shortEscape? e with
    | none => .error ⟨.badEscape, rest.length + 2⟩
    | some c => do
      let (cs, tail) ← readString start rest
      return (c :: cs, tail)
  | c :: rest =>
    if c.toNat < 0x20 then .error ⟨.controlCharacter, rest.length + 1⟩
    else do
      let (cs, tail) ← readString start rest
      return (c :: cs, tail)

theorem readString_close (start : Nat) (rest : List Char) :
    readString start ('"' :: rest) = .ok ([], rest) := by rw [readString]

end ServiceCli.Json
