import ServiceCli.Text.Charset.Basic
import ServiceCli.Text.Utf8

set_option autoImplicit false
set_option relaxedAutoImplicit false

namespace ServiceCli.Text

def utf8Step (b : UInt8) (rest : List UInt8) : Step :=
  match headOf b rest with
  | .char c size => .char size c.toNat
  | .bad _ size => .nothing size

/-- Bytes without the mark of UTF-8 before them, or without the beginning of one. -/
def withoutMark : List UInt8 → List UInt8
  | 0xef :: 0xbb :: 0xbf :: rest => rest
  | [0xef, 0xbb] => []
  | [0xef] => []
  | bytes => bytes

/-- Which byte of a number comes first: the least or the most significant one. -/
inductive ByteOrder where
  | little
  | big
  deriving DecidableEq, Repr

def ByteOrder.number (order : ByteOrder) (bytes : List UInt8) : Nat :=
  let digits := match order with
    | .little => bytes.reverse
    | .big => bytes
  digits.foldl (fun n b => n * 0x100 + b.toNat) 0

/-- One step of UTF-16. A half of a pair without the other one stands for nothing. -/
def utf16Step (order : ByteOrder) (b : UInt8) : List UInt8 → Step
  | [] => .nothing 1
  | second :: rest =>
    let unit := order.number [b, second]
    if isHighHalf unit then
      match rest with
      | third :: fourth :: _ =>
        let low := order.number [third, fourth]
        if isLowHalf low then .char 4 (pairChar unit low).toNat else .nothing 2
      | more => .nothing (2 + more.length)
    else if isLowHalf unit then .nothing 2
    else .char 2 unit

def utf32Step (order : ByteOrder) (b : UInt8) : List UInt8 → Step
  | second :: third :: fourth :: _ =>
    let n := order.number [b, second, third, fourth]
    if n.isValidChar then .char 4 n else .nothing 4
  | more => .nothing (1 + more.length)

def byteOrderMark : Nat := 0xfeff

/-- The order of bytes that a mark of a given size at their start tells. -/
def ByteOrder.ofMark? (size : Nat) (bytes : List UInt8) : Option ByteOrder :=
  [ByteOrder.little, .big].find? fun order => order.number (bytes.take size) == byteOrderMark

/-- Reads bytes in units of a given size; without a mark at the start, only a part of one unit can
be read. -/
def readMarked (size : Nat) (step : ByteOrder → UInt8 → List UInt8 → Step) (bytes : List UInt8) :
    Except ReadingFault Reading :=
  match ByteOrder.ofMark? size bytes with
  | some order => readEach (step order) (bytes.drop size)
  | none => if bytes.length < size then .ok [none] else .error .undecodable

/-- A character set in units of a given size. What is a word of its own needs no mark. -/
def Charset.ofUnits (name : String) (aliases : List String) (size : Nat)
    (step : ByteOrder → UInt8 → List UInt8 → Step) : Charset where
  name := name
  aliases := aliases
  read := readMarked size step
  readWhole? bytes :=
    let reading := match ByteOrder.ofMark? size bytes with
      | some order => readEach (step order) (bytes.drop size)
      | none => readEach (step .little) bytes
    reading.toOption.bind fun reading => reading.mapM id

/-- The value of a letter that stands for six bits. -/
def sixBits? (b : UInt8) : Option Nat :=
  if 0x41 ≤ b && b ≤ 0x5a then some (b.toNat - 0x41)
  else if 0x61 ≤ b && b ≤ 0x7a then some (b.toNat - 0x61 + 26)
  else if 0x30 ≤ b && b ≤ 0x39 then some (b.toNat - 0x30 + 52)
  else if b == 0x2b then some 62
  else if b == 0x2f then some 63
  else none

/-- What has been read of letters that stand for bits: the bits that are left over, their number,
and the first half of a pair that waits for the second. -/
structure Shifted where
  bits : Nat
  count : Nat
  high? : Option Nat

namespace Shifted

def start : Shifted := ⟨0, 0, none⟩

/-- Whether the bits left over are more than a padding of zeros. -/
def holdsPart (s : Shifted) : Bool := 6 ≤ s.count || s.bits != 0

/-- The unit of sixteen bits that follows what has been read. -/
def withUnit (s : Shifted) (unit : Nat) : Shifted × List Nat :=
  let waiting : Shifted × List Nat :=
    if isHighHalf unit then ({ s with high? := some unit }, [])
    else ({ s with high? := none }, [unit])
  match s.high? with
  | none => waiting
  | some high =>
    if isLowHalf unit then ({ s with high? := none }, [(pairChar high unit).toNat])
    else (waiting.1, high :: waiting.2)

/-- One more letter, with the units that are complete then. -/
def withLetter (s : Shifted) (value : Nat) : Shifted × List Nat :=
  let bits := s.bits * 64 + value
  let count := s.count + 6
  if count < 16 then ({ s with bits, count }, [])
  else
    let left := Nat.pow 2 (count - 16)
    { s with bits := bits % left, count := count - 16 }.withUnit (bits / left)

end Shifted

/-- One step of UTF-7 outside letters that stand for bits. -/
def utf7Direct (b : UInt8) (rest : List UInt8) : Option Shifted × Step :=
  if b == 0x2b then
    match rest with
    | [] => (some .start, .chars 1 [])
    | next :: _ =>
      if next == 0x2d then (none, .char 2 0x2b)
      else if (sixBits? next).isSome then (some .start, .chars 1 [])
      else (none, .nothing 2)
  else if b < 0x80 then (none, .char 1 b.toNat)
  else (none, .nothing 1)

/-- One step of UTF-7. Letters that stand for bits end at the first other byte, which is dropped if
it is a hyphen. -/
def utf7Step (shifted? : Option Shifted) (b : UInt8) (rest : List UInt8) :
    Option Shifted × Step :=
  match shifted? with
  | none => utf7Direct b rest
  | some shifted =>
    match sixBits? b with
    | some value =>
      let (next, numbers) := shifted.withLetter value
      (some next, .chars 1 numbers)
    | none =>
      if shifted.holdsPart then (none, .nothing 1)
      else
        let waiting := if b < 0x80 then shifted.high?.toList else []
        if b == 0x2d then (none, .chars 1 waiting)
        else if waiting.isEmpty then utf7Direct b rest
        else (none, .chars 1 (waiting ++ [b.toNat]))

/-- Reads UTF-7; the first `skip` bytes are already taken. -/
def utf7From (shifted? : Option Shifted) (skip : Nat) : List UInt8 → Reading
  | [] => if shifted?.any fun s => s.holdsPart || s.high?.isSome then [none] else []
  | b :: rest =>
    match skip with
    | skip + 1 => utf7From shifted? skip rest
    | 0 =>
      match utf7Step shifted? b rest with
      | (next, .chars size numbers) => numbers.map some ++ utf7From next (size - 1) rest
      | (next, .nothing size) => none :: utf7From next (size - 1) rest
      | (_, .short) => [none]

def utf8Charset : Charset where
  name := "utf_8"
  aliases := ["cp65001", "u8", "utf", "utf8", "utf8_ucs2", "utf8_ucs4"]
  read := readEach utf8Step

def unicodeCharsets : List Charset := [
  utf8Charset,
  { name := "utf_8_sig", aliases := [], read := readEach utf8Step ∘ withoutMark },
  { name := "utf_7"
    aliases := ["u7", "unicode_1_1_utf_7", "utf7"]
    read := fun bytes => .ok (utf7From none 0 bytes) },
  .ofUnits "utf_16" ["u16", "utf16"] 2 utf16Step,
  { name := "utf_16_le"
    aliases := ["unicodelittleunmarked", "utf_16le"]
    read := readEach (utf16Step .little) },
  { name := "utf_16_be"
    aliases := ["unicodebigunmarked", "utf_16be"]
    read := readEach (utf16Step .big) },
  .ofUnits "utf_32" ["u32", "utf32"] 4 utf32Step,
  { name := "utf_32_le", aliases := ["utf_32le"], read := readEach (utf32Step .little) },
  { name := "utf_32_be", aliases := ["utf_32be"], read := readEach (utf32Step .big) }]

end ServiceCli.Text
