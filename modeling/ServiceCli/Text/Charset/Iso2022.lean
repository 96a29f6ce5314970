import ServiceCli.Text.Charset.EightBit
import ServiceCli.Text.Charset.Gb2312
import ServiceCli.Text.Charset.Japanese
import ServiceCli.Text.Charset.Korean

/-!
ISO 2022: bytes of seven bits that stand for characters of sets designated by escape sequences. One
set counts until another is designated, or until bytes are shifted to the second one; a third one
counts for the single byte after an escape of its own.
-/

set_option autoImplicit false
set_option relaxedAutoImplicit false

namespace ServiceCli.Text.Iso2022

/-- What an escape sequence designates: the last byte of the sequence, and whether characters have
two bytes. -/
structure Mark where
  last : Char
  double : Bool
  deriving DecidableEq, Repr

/-- A designated set: what one byte stands for, or two. An upper set counts for single bytes after
an escape only. -/
inductive Designated where
  | single (number? : Nat → Option Nat)
  | double (numbers? : Nat → Nat → Option (List Nat))
  | upper (number? : Nat → Option Nat)

/-- A variant of ISO 2022: the sets that can be designated, apart from ASCII, and the features that
are provided for. -/
structure Variant where
  sets : List (Mark × Designated)
  hasShifts : Bool
  hasThird : Bool
  hasPrefix : Bool

def asciiMark : Mark := ⟨'B', false⟩

/-- The sets that are designated, whether bytes are shifted to the second one, and whether an escape
sequence of another kind goes on. -/
structure State where
  first : Mark
  second : Mark
  third : Mark
  shifted : Bool
  passing : Bool

def State.start : State := ⟨asciiMark, asciiMark, asciiMark, false, false⟩

/-- The places that sets are designated to. -/
inductive Place where
  | first
  | second
  | third
  deriving DecidableEq, Repr

def State.designate (s : State) (mark : Mark) : Place → State
  | .first => { s with first := mark }
  | .second => { s with second := mark }
  | .third => { s with third := mark }

def endsEscape (b : UInt8) : Bool := (0x41 ≤ b && b ≤ 0x5a) || b == 0x40

/-- The byte that begins an escape sequence. -/
def escape : UInt8 := 0x1b

/-- The byte after the escape by which a designation is known. -/
def beginsDesignation (b : UInt8) : Bool := "()$.&".toList.contains (Char.ofNat b.toNat)

def longestEscape : Nat := 16

/-- The length of the escape sequence at the head of bytes, given the bytes from a place on: nothing
where the bytes end before it, and zero where it is too long. A prefix that announces a revision
does not end it. -/
def escapeLength? (v : Variant) (place skip : Nat) : List UInt8 → Option Nat
  | [] => if longestEscape ≤ place + skip then some 0 else none
  | b :: rest =>
    if longestEscape ≤ place then some 0
    else match skip with
      | skip + 1 => escapeLength? v (place + 1) skip rest
      | 0 =>
        if endsEscape b then some (place + 1)
        else if v.hasPrefix && b == 0x26 && rest.head? == some 0x40 then
          escapeLength? v (place + 1) 2 rest
        else escapeLength? v (place + 1) 0 rest

/-- The place and the mark that an escape sequence designates, given the bytes after the escape. -/
def designation? (v : Variant) (sequence : List UInt8) : Option (Place × Mark) :=
  match sequence.map fun b => Char.ofNat b.toNat with
  | ['$', last] => some (.first, ⟨last, true⟩)
  | ['(', last] => some (.first, ⟨last, false⟩)
  | [')', last] => some (.second, ⟨last, false⟩)
  | ['.', last] => if v.hasThird then some (.third, ⟨last, false⟩) else none
  | ['$', '(', last] => some (.first, ⟨last, true⟩)
  | ['$', ')', last] => some (.second, ⟨last, true⟩)
  | [_, _, '\x1b', '$', 'B'] => if v.hasPrefix then some (.first, ⟨'B', true⟩) else none
  | _ => none

def Variant.provides (v : Variant) (mark : Mark) : Bool :=
  mark == asciiMark || (v.sets.lookup mark).isSome

/-- A designation, given the bytes after the escape. -/
def designationStep (v : Variant) (s : State) (rest : List UInt8) : State × Step :=
  match escapeLength? v 1 0 rest with
  | none => (s, .short)
  | some 0 => (s, .nothing 1)
  | some length =>
    match designation? v (rest.take (length - 1)) with
    | some (place, mark) =>
      if v.provides mark then (s.designate mark place, .chars length []) else (s, .nothing length)
    | none => (s, .nothing length)

/-- A character of the third set, given the bytes after the escape. Before a set is designated, it
is ASCII. -/
def thirdStep (v : Variant) (s : State) (rest : List UInt8) : State × Step :=
  match rest with
  | _ :: b :: _ =>
    let number? :=
      if s.third == asciiMark then if b < 0x80 then some b.toNat else none
      else match v.sets.lookup s.third with
        | some (.upper number?) => number? b.toNat
        | _ => none
    (s, number?.elim (.nothing 3) (.char 3))
  | _ => (s, .short)

def graphicStep (v : Variant) (s : State) (b : UInt8) (rest : List UInt8) : Step :=
  match v.sets.lookup (if s.shifted then s.second else s.first) with
  | none => .char 1 b.toNat
  | some (.upper _) => .nothing 1
  | some (.single number?) => (number? b.toNat).elim (.nothing 1) (.char 1)
  | some (.double numbers?) =>
    match rest with
    | [] => .short
    | c :: _ => (numbers? b.toNat c.toNat).elim (.nothing 2) (.chars 2)

def step (v : Variant) (s : State) (b : UInt8) (rest : List UInt8) : State × Step :=
  if s.passing then ({ s with passing := !endsEscape b }, .char 1 b.toNat)
  else if b == escape then
    match rest with
    | [] => (s, .short)
    | c :: _ =>
      if beginsDesignation c then designationStep v s rest
      else if v.hasThird && c == 0x4e then thirdStep v s rest
      else ({ s with passing := true }, .char 1 b.toNat)
  else if v.hasShifts && b == 0x0f then ({ s with shifted := false }, .chars 1 [])
  else if v.hasShifts && b == 0x0e then ({ s with shifted := true }, .chars 1 [])
  else if b == 0x0a then ({ s with shifted := false }, .char 1 b.toNat)
  else if b < 0x20 then (s, .char 1 b.toNat)
  else if 0x80 ≤ b then (s, .nothing 1)
  else (s, graphicStep v s b rest)

def ofGrid (grid : Grid) : Designated := .double fun first second =>
  (grid.number? first second).map ([·])

def ofPart (name : String) (byte : Nat) : Option Nat := do
  let charset ← isoCharsets.find? (·.name == name)
  let reading ← (charset.read [UInt8.ofNat byte]).toOption
  reading.head?.join

def japaneseSet : Mark × Designated :=
  (⟨'J', false⟩, .single fun n => some (japaneseAscii (UInt8.ofNat n)))

def halfWideSet : Mark × Designated :=
  (⟨'I', false⟩, .single fun n => halfWide? (UInt8.ofNat (n + 0x80)))

def firstGrid : Mark × Designated := (⟨'B', true⟩, ofGrid jisx0208)

/-- The first Japanese grid in its oldest edition, with the same characters. -/
def oldGrid : Mark × Designated := (⟨'@', true⟩, ofGrid jisx0208)

def secondGrid : Mark × Designated := (⟨'D', true⟩, ofGrid jisx0212)

def koreanGrid : Mark × Designated := (⟨'C', true⟩, ofGrid ksx1001)

def chineseGrid : Mark × Designated := (⟨'A', true⟩, ofGrid gb2312)

/-- The two planes of an edition; the first plane has a mark of its own in each edition. -/
def planes (edition : Edition) (first : Char) : List (Mark × Designated) := [
  (⟨first, true⟩, .double (firstPlane? edition)), (⟨'P', true⟩, .double (secondPlane? edition))]

/-- The upper half of the first part of ISO 8859. -/
def latinSet : Mark × Designated :=
  (⟨'A', false⟩, .upper fun n => if n < 0x80 then some (n + 0x80) else none)

/-- The bytes of Greek characters that came later than this set. -/
def laterGreek : List Nat := [0xa4, 0xa5, 0xaa]

/-- The Greek part of ISO 8859. The highest bit of a byte is turned over. -/
def greekSet : Mark × Designated :=
  (⟨'F', false⟩, .upper fun n =>
    let byte := n ^^^ 0x80
    if byte < 0xa0 then some byte
    else if laterGreek.contains byte then none
    else ofPart "iso8859_7" byte)

def japanese (sets : List (Mark × Designated)) (hasThird : Bool) : Variant :=
  ⟨sets, false, hasThird, true⟩

def charset (name : String) (aliases : List String) (v : Variant) : Charset :=
  { name, aliases, read := readFrom (step v) .start 0 }

def charsets : List Charset := [
  charset "iso2022_jp" ["csiso2022jp", "iso2022jp", "iso_2022_jp"]
    (japanese [firstGrid, japaneseSet, oldGrid] false),
  charset "iso2022_jp_1" ["iso2022jp_1", "iso_2022_jp_1"]
    (japanese [firstGrid, secondGrid, japaneseSet, oldGrid] false),
  charset "iso2022_jp_2" ["iso2022jp_2", "iso_2022_jp_2"]
    (japanese [firstGrid, secondGrid, japaneseSet, oldGrid, koreanGrid, chineseGrid,
      latinSet, greekSet] true),
  charset "iso2022_jp_3" ["iso2022jp_3", "iso_2022_jp_3"]
    (japanese (firstGrid :: planes .earlier 'O') false),
  charset "iso2022_jp_2004" ["iso2022jp_2004", "iso_2022_jp_2004"]
    (japanese (firstGrid :: planes .later 'Q') false),
  charset "iso2022_jp_ext" ["iso2022jp_ext", "iso_2022_jp_ext"]
    (japanese [firstGrid, secondGrid, japaneseSet, halfWideSet, oldGrid] false),
  charset "iso2022_kr" ["csiso2022kr", "iso2022kr", "iso_2022_kr"]
    ⟨[koreanGrid], true, false, false⟩]

end ServiceCli.Text.Iso2022
