import ServiceCli.Text.Charset.Basic

/-!
Punycode: ASCII characters first, then, after the last hyphen, where the others go. Each of those is
written as the distance from the one before, counted through all places of all characters, in digits
whose weights follow a bias. Reading stops at the first thing that is no distance.
-/

set_option autoImplicit false
set_option relaxedAutoImplicit false

namespace ServiceCli.Text.Punycode

def digit? (b : UInt8) : Option Nat :=
  if 0x41 ≤ b && b ≤ 0x5a then some (b.toNat - 0x41)
  else if 0x61 ≤ b && b ≤ 0x7a then some (b.toNat - 0x61)
  else if 0x30 ≤ b && b ≤ 0x39 then some (b.toNat - 0x30 + 26)
  else none

/-- A digit below the threshold of its place ends a number. -/
def threshold (place bias : Nat) : Nat := max 1 (min 26 (36 * (place + 1) - bias))

/-- The number at the head of bytes, and the bytes after it; what was read of it weighs `value`. -/
def number? (bias place weight value : Nat) : List UInt8 → Option (Nat × List UInt8)
  | [] => none
  | b :: rest => do
    let digit ← digit? b
    let limit := threshold place bias
    let value := value + digit * weight
    if digit < limit then return (value, rest)
    else number? bias (place + 1) (weight * (36 - limit)) value rest

/-- Numbers up to here need no more digits. -/
def largestSmall : Nat := 455

/-- The number of digits that a distance needs, times their base, and what is left of it. -/
def shrink (delta : Nat) : Nat × Nat :=
  if largestSmall < delta then
    let (steps, left) := shrink (delta / 35)
    (steps + 36, left)
  else (0, delta)
termination_by delta
decreasing_by
  simp only [largestSmall] at *
  omega

/-- The bias after a distance in a text that now has `length` characters. -/
def adapt (delta : Nat) (isFirst : Bool) (length : Nat) : Nat :=
  let scaled := if isFirst then delta / 700 else delta / 2
  let (steps, left) := shrink (scaled + scaled / length)
  steps + 36 * left / (left + 38)

/-- Where the next character goes: its number at least, and the place from which to count. -/
structure Spot where
  number : Nat
  place : Nat
  bias : Nat
  isFirst : Bool

/-- The first character beyond ASCII, before all places. -/
def Spot.start : Spot := ⟨0x80, 0, 72, true⟩

/-- A character beyond the last one is read as a question mark. -/
def questionMark : Nat := 0x3f

/-- Puts characters into a text; whether all bytes were distances of characters comes with it. The
fuel bounds the number of characters. -/
def insertAll (fuel : Nat) (spot : Spot) (text : Reading) (bytes : List UInt8) :
    Reading × Bool :=
  match fuel, bytes with
  | _, [] => (text, true)
  | 0, _ => (text, false)
  | fuel + 1, bytes =>
    match number? spot.bias 0 1 0 bytes with
    | none => (text, false)
    | some (delta, rest) =>
      let count := text.length + 1
      let place := spot.place + delta
      let number := spot.number + place / count
      let isCharacter := number ≤ 0x10ffff
      let number := if isCharacter then number else questionMark
      let index := place % count
      let text := text.take index ++ some number :: text.drop index
      let next : Spot := ⟨number, index + 1, adapt delta spot.isFirst text.length, false⟩
      let (text, whole) := insertAll fuel next text rest
      (text, whole && isCharacter)

def parts (bytes : List UInt8) : List UInt8 × List UInt8 :=
  let after := bytes.reverse.takeWhile (· != 0x2d)
  (bytes.take (bytes.length - after.length - 1), after.reverse)

def readParts (bytes : List UInt8) : Except ReadingFault (Reading × Bool) :=
  let (base, distances) := parts bytes
  if distances.any (0x80 ≤ ·) then .error .notAscii
  else
    let text := base.map fun b => if b < 0x80 then some b.toNat else none
    .ok (insertAll distances.length .start text distances)

def charset : Charset where
  name := "punycode"
  aliases := []
  read bytes := (readParts bytes).map (·.1)
  readWhole? bytes := (readParts bytes).toOption.bind fun (reading, whole) =>
    if whole then reading.mapM id else none

end ServiceCli.Text.Punycode
