set_option autoImplicit false
set_option relaxedAutoImplicit false

/-!
UTF-8: reading bytes as text. A strict reader stops at the first bytes that form no character and
says which they are; a lenient one puts the replacement character in their place.
-/

namespace ServiceCli.Text

/-- Why bytes form no character. -/
inductive EncodingProblem where
  | badStart
  | badContinuation
  | unexpectedEnd
  deriving DecidableEq, Repr

def EncodingProblem.message : EncodingProblem → String
  | .badStart => "invalid start byte"
  | .badContinuation => "invalid continuation byte"
  | .unexpectedEnd => "unexpected end of data"

/-- The bytes at the head of a sequence: a character and its length, or a problem and the number
of bytes it spans. -/
inductive Head where
  | char (c : Char) (size : Nat)
  | bad (problem : EncodingProblem) (size : Nat)
  deriving Repr

def isContinuation (b : UInt8) : Bool := 0x80 ≤ b && b < 0xc0

/-- The low six bits of a continuation byte. -/
private def tailBits (b : UInt8) : Nat := b.toNat - 0x80

/-- The second byte of a character must be in this range, which excludes overlong forms, halves of
surrogate pairs and numbers beyond the last code point. -/
def secondRange (first : UInt8) : UInt8 × UInt8 :=
  if first == 0xe0 then (0xa0, 0xbf)
  else if first == 0xed then (0x80, 0x9f)
  else if first == 0xf0 then (0x90, 0xbf)
  else if first == 0xf4 then (0x80, 0x8f)
  else (0x80, 0xbf)

private def fitsSecond (first b : UInt8) : Bool :=
  let (low, high) := secondRange first
  low ≤ b && b ≤ high

def headOf (first : UInt8) (rest : List UInt8) : Head :=
  if first < 0x80 then .char (Char.ofNat first.toNat) 1
  else if first < 0xc2 || 0xf5 ≤ first then .bad .badStart 1
  else match rest with
    | [] => .bad .unexpectedEnd 1
    | second :: rest =>
      if !fitsSecond first second then .bad .badContinuation 1
      else if first < 0xe0 then
        .char (Char.ofNat ((first.toNat - 0xc0) * 0x40 + tailBits second)) 2
      else match rest with
        | [] => .bad .unexpectedEnd 2
        | third :: rest =>
          if !isContinuation third then .bad .badContinuation 2
          else if first < 0xf0 then
            .char (Char.ofNat (((first.toNat - 0xe0) * 0x40 + tailBits second) * 0x40
              + tailBits third)) 3
          else match rest with
            | [] => .bad .unexpectedEnd 3
            | fourth :: _ =>
              if !isContinuation fourth then .bad .badContinuation 3
              else .char (Char.ofNat ((((first.toNat - 0xf0) * 0x40 + tailBits second) * 0x40
                + tailBits third) * 0x40 + tailBits fourth)) 4

/-- Bytes that form no character: the problem, the index of the first and the number of them. -/
structure EncodingError where
  problem : EncodingProblem
  start : Nat
  size : Nat
  deriving DecidableEq, Repr

def EncodingError.message (e : EncodingError) (bytes : List UInt8) : String :=
  let digits := Nat.toDigits 16 ((bytes.getD e.start 0).toNat)
  let hex := String.ofList (List.replicate (2 - digits.length) '0' ++ digits)
  let what := if e.size == 1 then s!"byte 0x{hex} in position {e.start}"
    else s!"bytes in position {e.start}-{e.start + e.size - 1}"
  s!"'utf-8' codec can't decode {what}: {e.problem.message}"

/-- The strict reader; `skip` bytes belong to the character before, `index` is the current one. -/
def decodeFrom (index skip : Nat) : List UInt8 → Except EncodingError (List Char)
  | [] => .ok []
  | b :: rest =>
    match skip with
    | skip + 1 => decodeFrom (index + 1) skip rest
    | 0 =>
      match headOf b rest with
      | .char c size => do
        let cs ← decodeFrom (index + 1) (size - 1) rest
        return c :: cs
      | .bad problem size => .error ⟨problem, index, size⟩

def decode (bytes : List UInt8) : Except EncodingError String :=
  (decodeFrom 0 0 bytes).map String.ofList

def decodeLenientFrom (skip : Nat) : List UInt8 → List Char
  | [] => []
  | b :: rest =>
    match skip with
    | skip + 1 => decodeLenientFrom skip rest
    | 0 =>
      match headOf b rest with
      | .char c size => c :: decodeLenientFrom (size - 1) rest
      | .bad _ size => Char.ofNat 0xfffd :: decodeLenientFrom (size - 1) rest

/-- The text that bytes encode, with the replacement character for bytes that form none. -/
def decodeLenient (bytes : List UInt8) : String := String.ofList (decodeLenientFrom 0 bytes)

def encode (s : String) : List UInt8 := s.toUTF8.toList

/-- A text with every line end as a line feed. -/
def unifyLines : List Char → List Char
  | [] => []
  | '\r' :: '\n' :: rest => '\n' :: unifyLines rest
  | '\r' :: rest => '\n' :: unifyLines rest
  | c :: rest => c :: unifyLines rest

end ServiceCli.Text
