import ServiceCli.Text.Charset.Basic
import ServiceCli.Text.Charset.Ksx1001

set_option autoImplicit false
set_option relaxedAutoImplicit false

namespace ServiceCli.Text

def firstSyllable : Nat := 0xac00

def lastSyllable : Nat := 0xd7a3

/-- The number of the syllable of an initial, a vowel and a final, each counted from zero; the first
final stands for none. -/
def syllable (initial vowel final : Nat) : Nat :=
  firstSyllable + (initial * 21 + vowel) * 28 + final

def placeIn? (list : List Nat) (element : Nat) : Option Nat := list.findIdx? (· == element)

/-- The characters of ASCII in one byte, and those of a grid of 94 rows in two bytes that have their
highest bit set. -/
def highPair? (grid : Grid) (first second : UInt8) : Option (List Nat) :=
  if first < 0x80 || second < 0x80 then none
  else (grid.number? (first.toNat - 0x80) (second.toNat - 0x80)).map ([·])

/-! ### Syllables in parts -/

/-- The row of the single letters in KS X 1001. -/
def letterRow : UInt8 := 0xa4

/-- The place in that row that stands for no letter. -/
def letterFiller : UInt8 := 0xd4

/-- The letters that begin a syllable, by their bytes. -/
def initialBytes : List Nat := [
  0xa1, 0xa2, 0xa4, 0xa7, 0xa8, 0xa9, 0xb1, 0xb2, 0xb3, 0xb5, 0xb6, 0xb7, 0xb8, 0xb9, 0xba, 0xbb,
  0xbc, 0xbd, 0xbe]

/-- The letters that end a syllable, by their bytes. -/
def finalBytes : List Nat := [
  0xd4, 0xa1, 0xa2, 0xa3, 0xa4, 0xa5, 0xa6, 0xa7, 0xa9, 0xaa, 0xab, 0xac, 0xad, 0xae, 0xaf, 0xb0,
  0xb1, 0xb2, 0xb4, 0xb5, 0xb6, 0xb7, 0xb8, 0xba, 0xbb, 0xbc, 0xbd, 0xbe]

def vowelBytes : ByteRanges := [(0xbf, 0xd3)]

/-- A syllable of three letters that follow a filler, each after the byte of the row. -/
def composedStep : List UInt8 → Step
  | row :: initial :: row' :: vowel :: row'' :: final :: _ =>
    let number? : Option Nat := do
      guard (row == letterRow && row' == letterRow && row'' == letterRow)
      let initial ← placeIn? initialBytes initial.toNat
      let vowel ← vowelBytes.index? vowel.toNat
      let final ← placeIn? finalBytes final.toNat
      return syllable initial vowel final
    number?.elim (.nothing 1) (.char 8)
  | _ => .short

def eucKrStep (b : UInt8) (rest : List UInt8) : Step :=
  match rest with
  | second :: parts =>
    if b == letterRow && second == letterFiller then composedStep parts
    else doubleStep (highPair? ksx1001) b rest
  | [] => doubleStep (highPair? ksx1001) b rest

/-! ### Syllables in further rows -/

/-- The bytes of the cells in the rows before those of KS X 1001. -/
def unifiedSeconds : ByteRanges := [(0x41, 0x5a), (0x61, 0x7a), (0x81, 0xfe)]

/-- The bytes of the cells that are free in the rows of KS X 1001. -/
def freeSeconds : ByteRanges := [(0x41, 0x5a), (0x61, 0x7a), (0x81, 0xa0)]

/-- The number of further syllables in the rows before those of KS X 1001. -/
def unifiedCount : Nat := 32 * unifiedSeconds.size

def furtherSyllables : List Nat := Grid.lacking [ksx1001] firstSyllable lastSyllable

def unifiedGrid : Grid :=
  .ofNumbers [(0x81, 0xa0)] unifiedSeconds (furtherSyllables.take unifiedCount)

def freeGrid : Grid := .ofNumbers [(0xa1, 0xc6)] freeSeconds (furtherSyllables.drop unifiedCount)

/-- What two bytes stand for in the set that has every syllable. -/
def unifiedPair? (first second : UInt8) : Option (List Nat) :=
  highPair? ksx1001 first second
    <|> ((unifiedGrid.number? first.toNat second.toNat
      <|> freeGrid.number? first.toNat second.toNat).map ([·]))

/-! ### Syllables in groups of bits -/

/-- What five bits stand for in a syllable: nothing, no letter, or a letter by its place. -/
inductive Letter where
  | none
  | filler
  | letter (place : Nat)
  deriving DecidableEq, Repr

/-- The letter that a group of five bits stands for; `bits` lists the groups of the letters. -/
def Letter.of (filler : Nat) (bits : List Nat) (group : Nat) : Letter :=
  if group == filler then .filler else (placeIn? bits group).elim .none .letter

def initialBits : List Nat := List.range' 2 19

def vowelBits : List Nat := [3, 4, 5, 6, 7, 10, 11, 12, 13, 14, 15, 18, 19, 20, 21, 22, 23, 26, 27,
  28, 29]

def finalBits : List Nat := List.range' 2 16 ++ List.range' 19 11

def initialLetters : List Nat := [
  0x3131, 0x3132, 0x3134, 0x3137, 0x3138, 0x3139, 0x3141, 0x3142, 0x3143, 0x3145, 0x3146, 0x3147,
  0x3148, 0x3149, 0x314a, 0x314b, 0x314c, 0x314d, 0x314e]

def finalLetters : List Nat := [
  0x3131, 0x3132, 0x3133, 0x3134, 0x3135, 0x3136, 0x3137, 0x3139, 0x313a, 0x313b, 0x313c, 0x313d,
  0x313e, 0x313f, 0x3140, 0x3141, 0x3142, 0x3144, 0x3145, 0x3146, 0x3147, 0x3148, 0x314a, 0x314b,
  0x314c, 0x314d, 0x314e]

/-- The letter that stands for the first vowel alone. -/
def firstVowel : Nat := 0x314f

/-- The character of an initial, a vowel and a final, if they stand for one together. -/
def assembled? : Letter → Letter → Letter → Option Nat
  | .filler, .filler, .filler => some 0x3000
  | .filler, .filler, .letter final => finalLetters[final]?
  | .filler, .letter vowel, .filler => some (firstVowel + vowel)
  | .letter initial, .filler, .filler => initialLetters[initial]?
  | .letter initial, .letter vowel, .filler => some (syllable initial vowel 0)
  | .letter initial, .letter vowel, .letter final => some (syllable initial vowel (final + 1))
  | _, _, _ => none

/-- The character of three groups of bits. -/
def assembledPair? (first second : Nat) : Option Nat :=
  let bits := first * 0x100 + second
  assembled? (.of 1 initialBits (bits / 0x400 % 0x20)) (.of 2 vowelBits (bits / 0x20 % 0x20))
    (.of 1 finalBits (bits % 0x20))

/-- The bytes of the cells of two rows of KS X 1001 that share one first byte. -/
def sharedSeconds : ByteRanges := [(0x31, 0x7e), (0x91, 0xfe)]

/-- The first bytes of symbols and of ideographs, each standing for two rows. -/
def sharedFirsts : ByteRanges := [(0xd9, 0xde), (0xe0, 0xf9)]

/-- The rows of single letters cannot be reached in this way. -/
def isLetterCell (first second : Nat) : Bool := first == 0xda && 0xa1 ≤ second && second ≤ 0xd3

/-- The cell of KS X 1001 that two bytes stand for: symbols from its first row on, ideographs from
the forty-second. -/
def sharedCell? (first second : Nat) : Option (Nat × Nat) := do
  let place ← Grid.place? sharedFirsts sharedSeconds first second
  let row := place / 94
  return (0x21 + (if row < 12 then row else row + 29), 0x21 + place % 94)

/-- What two bytes of a set of assembled syllables stand for. -/
def johabPair? (first second : UInt8) : Option (List Nat) :=
  let first := first.toNat
  let second := second.toNat
  if first < 0xd8 then (assembledPair? first second).map ([·])
  else if isLetterCell first second then none
  else (sharedCell? first second).bind fun (row, cell) => (ksx1001.number? row cell).map ([·])

def koreanCharsets : List Charset := [
  { name := "euc_kr"
    aliases := ["euckr", "korean", "ks_c_5601", "ks_c_5601_1987", "ks_x_1001", "ksc5601",
      "ksx1001", "x_mac_korean"]
    read := readEach eucKrStep },
  { name := "cp949"
    aliases := ["949", "ms949", "uhc"]
    read := readEach (doubleStep unifiedPair?) },
  { name := "johab"
    aliases := ["cp1361", "ms1361"]
    read := readEach (doubleStep johabPair?) }]

end ServiceCli.Text
