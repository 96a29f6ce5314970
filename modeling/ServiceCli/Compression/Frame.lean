import ServiceCli.Compression.Inflate

set_option autoImplicit false
set_option relaxedAutoImplicit false

namespace ServiceCli.Compression

/-! ### Checksums

Two running sums, and the remainder of a division of polynomials over bits.
-/

/-- The running sums are taken modulo the largest prime below 65536. -/
def sumModulus : Nat := 65521

/-- The running sum of bytes, below the running sum of those sums. -/
def runningSums (bytes : List UInt8) : Nat :=
  let (low, high) := bytes.foldl (fun (low, high) b =>
    let low := (low + b.toNat) % sumModulus
    (low, (high + low) % sumModulus)) (1, 0)
  high * 0x10000 + low

/-- The divisor, the coefficient of the greatest power in the lowest bit. -/
def divisor : UInt32 := 0xedb88320

/-- The remainder after one more bit. -/
def remainderStep (r : UInt32) : UInt32 :=
  if r &&& 1 == 1 then (r >>> 1) ^^^ divisor else r >>> 1

def remainderByte (r : UInt32) (b : UInt8) : UInt32 :=
  (List.range 8).foldl (fun r _ => remainderStep r) (r ^^^ b.toUInt32)

def remainder (bytes : List UInt8) : Nat :=
  ((bytes.foldl remainderByte 0xffffffff) ^^^ 0xffffffff).toNat

/-! ### Frames -/

/-- What compressed bytes stand for. -/
abbrev Expanded := Except Corruption (List UInt8)

/-- A number of bytes, the least significant one first. -/
def lowFirst (bytes : List UInt8) : Nat := bytes.foldr (fun b n => b.toNat + 0x100 * n) 0

def expandBare (bytes : List UInt8) : Expanded := (inflate bytes).map (·.output.toList)

/-- Inflates bytes and lets the bytes after them be checked. -/
def expandThen (check : List UInt8 → List UInt8 → Except Corruption Unit) (bytes : List UInt8) :
    Expanded := do
  let inflated ← inflate bytes
  let output := inflated.output.toList
  match inflated.rest? with
  | some rest => check output rest
  | none => pure ()
  return output

def deflateMethod : Nat := 8

def checkNumber (size expected : Nat) (bytes : List UInt8) (cause : Corruption) :
    Except Corruption Unit :=
  if bytes.length < size || lowFirst (bytes.take size) == expected then .ok ()
  else .error cause

/-- Compressed bytes in the short frame: two bytes of header, the running sums at the end. -/
def expandShort : List UInt8 → Expanded
  | first :: second :: rest =>
    if (first.toNat * 0x100 + second.toNat) % 31 != 0 then .error .header
    else if first.toNat % 16 != deflateMethod then .error .method
    -- the bit asks for a dictionary, and there is none
    else if 7 < first.toNat / 16 || second.toNat.testBit 5 then .error .header
    else rest |> expandThen fun output after =>
      checkNumber 4 (runningSums output) (after.take 4).reverse .checksum
  | _ => .ok []

/-- The optional parts of a long header, by the bit that announces each. -/
inductive HeaderPart where
  | extra
  | text
  | checksum

/-- The bytes after a part of the header, if all of it is there. `whole` is the header from its
beginning, for the checksum. -/
def HeaderPart.skip? (whole : List UInt8) (part : HeaderPart) (bytes : List UInt8) :
    Except Corruption (Option (List UInt8)) :=
  match part with
  | .extra =>
    let length := 2 + lowFirst (bytes.take 2)
    if bytes.length < 2 || bytes.length < length then .ok none else .ok (some (bytes.drop length))
  | .text =>
    match bytes.dropWhile (· != 0) with
    | [] => .ok none
    | _ :: rest => .ok (some rest)
  | .checksum => do
    let header := whole.take (whole.length - bytes.length)
    checkNumber 2 (remainder header % 0x10000) bytes .headerChecksum
    return if bytes.length < 2 then none else some (bytes.drop 2)

/-- The parts that the flags of a long header announce, in order. -/
def headerParts (flags : Nat) : List HeaderPart :=
  ([(2, .extra), (3, .text), (4, .text), (1, .checksum)].filter fun (bit, _) =>
    flags.testBit bit).map (·.2)

/-- Checks what stands after compressed bytes in the long frame: their checksum and their number. -/
def checkLong (output after : List UInt8) : Except Corruption Unit := do
  checkNumber 4 (remainder output) after .checksum
  checkNumber 4 (output.length % Nat.pow 2 32) (after.drop 4) .length

def longMark : Nat := 0x8b1f

/-- Compressed bytes in the long frame: a header of ten bytes and optional parts, the checksum and
the number of the bytes at the end. -/
def expandLong (bytes : List UInt8) : Expanded := do
  if bytes.length < 2 then return []
  if lowFirst (bytes.take 2) != longMark then throw .header
  match bytes.drop 2 with
  | method :: flags :: rest =>
    if method.toNat != deflateMethod then throw .method
    if 0x20 ≤ flags.toNat then throw .headerFlags
    if rest.length < 6 then return []
    let after? ← (headerParts flags.toNat).foldlM (fun rest? part => match rest? with
      | none => pure none
      | some rest => part.skip? bytes rest) (some (rest.drop 6))
    match after? with
    | some rest => expandThen checkLong rest
    | none => return []
  | _ => return []

end ServiceCli.Compression
