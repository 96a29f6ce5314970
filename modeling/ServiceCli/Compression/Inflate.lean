set_option autoImplicit false
set_option relaxedAutoImplicit false

/-!
Inflating: blocks of bytes that are stored as they are, or written in two prefix codes, one of
bytes and lengths and one of distances back into what has been inflated. Where the bytes end
before the blocks do, what has been inflated so far stands.
-/

namespace ServiceCli.Compression

/-- What is wrong with compressed bytes. -/
inductive Corruption where
  | header
  | method
  | headerFlags
  | headerChecksum
  | blockType
  | storedLength
  | symbolCount
  | lengthsCode
  | lengthRepeat
  | noBlockEnd
  | literalsCode
  | distancesCode
  | literal
  | distance
  | distanceTooFar
  | checksum
  | length
  deriving DecidableEq, Repr

def Corruption.message : Corruption → String
  | .header => "incorrect header check"
  | .method => "unknown compression method"
  | .headerFlags => "unknown header flags set"
  | .headerChecksum => "header crc mismatch"
  | .blockType => "invalid block type"
  | .storedLength => "invalid stored block lengths"
  | .symbolCount => "too many length or distance symbols"
  | .lengthsCode => "invalid code lengths set"
  | .lengthRepeat => "invalid bit length repeat"
  | .noBlockEnd => "invalid code -- missing end-of-block"
  | .literalsCode => "invalid literal/lengths set"
  | .distancesCode => "invalid distances set"
  | .literal => "invalid literal/length code"
  | .distance => "invalid distance code"
  | .distanceTooFar => "invalid distance too far back"
  | .checksum => "incorrect data check"
  | .length => "incorrect length check"

/-- Why inflating stops before the last block ends. -/
inductive Stop where
  | exhausted
  | corrupt (cause : Corruption)
  deriving DecidableEq, Repr

/-- The bits of the current byte that are left, the bytes after it, and what has been inflated. -/
structure Progress where
  bits : List Bool
  bytes : List UInt8
  output : Array UInt8

abbrev Inflating := EStateM Stop Progress

/-- The bits of a byte, the least significant one first. -/
def bitsOf (b : UInt8) : List Bool := (List.range 8).map fun i => b.toNat.testBit i

def refuse {α : Type} (cause : Corruption) : Inflating α := throw (.corrupt cause)

def nextBit : Inflating Bool := do
  let p ← get
  match p.bits, p.bytes with
  | bit :: bits, _ => set { p with bits }; return bit
  | [], b :: bytes => set { p with bits := (bitsOf b).drop 1, bytes }; return b.toNat.testBit 0
  | [], [] => throw .exhausted

/-- A number of so many bits, the least significant one first. -/
def number : Nat → Inflating Nat
  | 0 => return 0
  | count + 1 => do
    let bit ← nextBit
    return bit.toNat + 2 * (← number count)

/-- The next byte; the bits that are left of the current one are skipped. -/
def nextByte : Inflating UInt8 := do
  let p ← get
  match p.bytes with
  | b :: bytes => set { p with bits := [], bytes }; return b
  | [] => throw .exhausted

def put (b : UInt8) : Inflating Unit := modify fun p => { p with output := p.output.push b }

/-! ### Prefix codes -/

/-- A prefix code: the symbols that have one bit, two bits and so on. Symbols of equally many bits
follow each other in the order of their bits. -/
abbrev Code := List (List Nat)

namespace Code

/-- The code in which each symbol has a given number of bits; those of no bits are left out. A code
without symbols has places of one bit. -/
def ofLengths (lengths : List Nat) : Code :=
  let longest := max 1 (lengths.foldl max 0)
  (List.range longest).map fun n =>
    (lengths.zipIdx.filter fun (length, _) => length == n + 1).map (·.2)

/-- How many places of the longest symbols stand for nothing; none if there are more symbols than
places. -/
def free? (code : Code) : Option Nat :=
  code.foldl (fun free? symbols => do
    let free ← free?
    if symbols.length ≤ 2 * free then some (2 * free - symbols.length) else none) (some 1)

def isEmpty (code : Code) : Bool := code.all List.isEmpty

/-- Whether every place stands for a symbol, or there are no symbols. -/
def isComplete (code : Code) : Bool := code.isEmpty || code.free? == some 0

/-- Whether a code is complete, or all of its symbols have one bit. -/
def isUsable (code : Code) : Bool :=
  code.isComplete || (code.length == 1 && code.free?.isSome)

/-- The next symbol, or nothing where the bits stand for none. `value` is the number of the bits
that have been read, and `first` that of the first symbol of one bit more, without that bit. -/
def symbolFrom (value first : Nat) : Code → Inflating (Option Nat)
  | [] => return none
  | symbols :: longer => do
    let bit ← nextBit
    let value := 2 * value + bit.toNat
    match symbols[value - 2 * first]? with
    | some symbol => return some symbol
    | none => symbolFrom value (2 * first + symbols.length) longer

/-- The next symbol, or nothing where the bits stand for none. -/
def symbol (code : Code) : Inflating (Option Nat) := code.symbolFrom 0 0

end Code

/-! ### Blocks -/

/-- The shortest length that each symbol stands for, and the number of bits that are added. -/
def lengthSymbols : List (Nat × Nat) := [
  (3, 0), (4, 0), (5, 0), (6, 0), (7, 0), (8, 0), (9, 0), (10, 0), (11, 1), (13, 1), (15, 1),
  (17, 1), (19, 2), (23, 2), (27, 2), (31, 2), (35, 3), (43, 3), (51, 3), (59, 3), (67, 4), (83, 4),
  (99, 4), (115, 4), (131, 5), (163, 5), (195, 5), (227, 5), (258, 0)]

/-- The shortest distance that each symbol stands for, and the number of bits that are added. -/
def distanceSymbols : List (Nat × Nat) := [
  (1, 0), (2, 0), (3, 0), (4, 0), (5, 1), (7, 1), (9, 2), (13, 2), (17, 3), (25, 3), (33, 4),
  (49, 4), (65, 5), (97, 5), (129, 6), (193, 6), (257, 7), (385, 7), (513, 8), (769, 8), (1025, 9),
  (1537, 9), (2049, 10), (3073, 10), (4097, 11), (6145, 11), (8193, 12), (12289, 12), (16385, 13),
  (24577, 13)]

/-- The symbol that ends a block; those below are bytes, those above lengths. -/
def blockEnd : Nat := 256

/-- Repeats so many bytes from a distance back; what is repeated may reach into the repetition. -/
def repeatBack (distance : Nat) : Nat → Inflating Unit
  | 0 => return ()
  | count + 1 => do
    let p ← get
    put (p.output.getD (p.output.size - distance) 0)
    repeatBack distance count

/-- The symbols of a block, up to its end. The fuel bounds their number. -/
def symbols (literals distances : Code) : Nat → Inflating Unit
  | 0 => throw .exhausted
  | fuel + 1 => do
    let some symbol ← literals.symbol | refuse .literal
    if symbol < blockEnd then
      put (UInt8.ofNat symbol)
      symbols literals distances fuel
    else if symbol == blockEnd then return ()
    else
      let some (least, extra) := lengthSymbols[symbol - blockEnd - 1]? | refuse .literal
      let length := least + (← number extra)
      let some symbol ← distances.symbol | refuse .distance
      let some (least, extra) := distanceSymbols[symbol]? | refuse .distance
      let distance := least + (← number extra)
      if (← get).output.size < distance then refuse .distanceTooFar
      repeatBack distance length
      symbols literals distances fuel

def stored : Nat → Inflating Unit
  | 0 => return ()
  | count + 1 => do
    put (← nextByte)
    stored count

/-- A number of two bytes, the least significant one first. -/
def twoBytes : Inflating Nat := do
  let low ← nextByte
  let high ← nextByte
  return low.toNat + 0x100 * high.toNat

/-- A block of stored bytes: their number, its complement, and the bytes. -/
def storedBlock : Inflating Unit := do
  let length ← twoBytes
  let complement ← twoBytes
  if length + complement != 0xffff then refuse .storedLength
  stored length

/-- The numbers of bits of bytes and lengths in a block without codes of its own. -/
def fixedLiterals : Code :=
  .ofLengths (List.replicate 144 8 ++ List.replicate 112 9 ++ List.replicate 24 7
    ++ List.replicate 8 8)

/-- The numbers of bits of distances in a block without codes of its own. -/
def fixedDistances : Code := .ofLengths (List.replicate 32 5)

/-- The order in which the code of numbers of bits is written. -/
def lengthOrder : List Nat :=
  [16, 17, 18, 0, 8, 7, 9, 6, 10, 5, 11, 4, 12, 3, 13, 2, 14, 1, 15]

/-- Numbers of bits, added to those that are known. The fuel bounds the number of symbols. -/
def codeLengths (code : Code) (total : Nat) (known : Array Nat) : Nat → Inflating (List Nat)
  | 0 => return known.toList
  | fuel + 1 => do
    if total ≤ known.size then return known.toList
    let symbol := (← code.symbol).getD 0
    if symbol < 16 then codeLengths code total (known.push symbol) fuel
    else
      -- the three greatest symbols repeat the last number, or a zero
      let (least, extra) :=
        if symbol == 16 then (3, 2) else if symbol == 17 then (3, 3) else (11, 7)
      let count := least + (← number extra)
      let last? := if symbol == 16 then known.back? else some 0
      match last? with
      | none => refuse .lengthRepeat
      | some last =>
        if total < known.size + count then refuse .lengthRepeat
        codeLengths code total (known ++ List.replicate count last) fuel

def blockCodes : Inflating (Code × Code) := do
  let literalCount := (← number 5) + 257
  let distanceCount := (← number 5) + 1
  let lengthCount := (← number 4) + 4
  if 286 < literalCount || 30 < distanceCount then refuse .symbolCount
  let written ← (lengthOrder.take lengthCount).mapM fun symbol => return (symbol, ← number 3)
  let code := Code.ofLengths ((List.range lengthOrder.length).map fun n =>
    (written.lookup n).getD 0)
  if !code.isComplete then refuse .lengthsCode
  let total := literalCount + distanceCount
  let lengths ← codeLengths code total #[] total
  if lengths.getD blockEnd 0 == 0 then refuse .noBlockEnd
  let literals := Code.ofLengths (lengths.take literalCount)
  if !literals.isUsable then refuse .literalsCode
  let distances := Code.ofLengths (lengths.drop literalCount)
  if !distances.isUsable then refuse .distancesCode
  return (literals, distances)

/-- Blocks up to the last one. The fuel bounds the number of blocks and of the symbols in each. -/
def blocks (size : Nat) : Nat → Inflating Unit
  | 0 => throw .exhausted
  | fuel + 1 => do
    let isLast ← nextBit
    match ← number 2 with
    | 0 => storedBlock
    | 1 => symbols fixedLiterals fixedDistances size
    | 2 =>
      let (literals, distances) ← blockCodes
      symbols literals distances size
    | _ => refuse .blockType
    if isLast then return () else blocks size fuel

/-- What has been inflated, and the bytes after the last block where it has been reached. -/
structure Inflated where
  output : Array UInt8
  rest? : Option (List UInt8)

def inflate (bytes : List UInt8) : Except Corruption Inflated :=
  let size := 8 * bytes.length + 1
  match (blocks size size).run ⟨[], bytes, #[]⟩ with
  | .ok _ p => .ok ⟨p.output, some p.bytes⟩
  | .error .exhausted p => .ok ⟨p.output, none⟩
  | .error (.corrupt cause) _ => .error cause

end ServiceCli.Compression
