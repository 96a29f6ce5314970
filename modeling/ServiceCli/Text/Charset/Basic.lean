import ServiceCli.Text.Character

/-!
Character sets: names, and a way of reading bytes. A reading goes from one character to the next;
bytes that stand for no character are kept as gaps, so that a reader can refuse them or put the
replacement character in their place.
-/

set_option autoImplicit false
set_option relaxedAutoImplicit false

namespace ServiceCli.Text

/-- What bytes stand for, piece by piece: the number of a character, or nothing. -/
abbrev Reading := List (Option Nat)

/-- The text of a reading, with the replacement character for bytes that stand for nothing. -/
def Reading.text (reading : Reading) : String :=
  String.ofList (joinHalves (reading.map (·.getD replacement.toNat)))

/-- Why bytes cannot be read at all. -/
inductive ReadingFault where
  /-- The bytes do not begin, or do not end, as the character set demands. -/
  | undecodable
  /-- A byte stands where only ASCII characters may. -/
  | notAscii
  /-- The name is that of a transformation of bytes, not of a character set. -/
  | transformsBytes
  /-- The name is that of a transformation of texts, not of a character set. -/
  | transformsText
  deriving DecidableEq, Repr

/-- One step of a reading: the number of bytes taken with what they stand for, or the remark that
the bytes end within a character. -/
inductive Step where
  | chars (size : Nat) (numbers : List Nat)
  | nothing (size : Nat)
  | short
  deriving DecidableEq, Repr

def Step.char (size number : Nat) : Step := .chars size [number]

/-- A character of two bytes, if they stand for one; else the first byte stands for nothing. -/
def Step.pair? (numbers? : Option (List Nat)) : Step :=
  numbers?.elim (.nothing 1) (.chars 2)

/-- So many bytes at most may wait for the rest of a character. -/
def mostWaiting : Nat := 8

/-- Reads bytes step by step. A state goes along; the first `skip` bytes are already taken. -/
def readFrom {σ : Type} (step : σ → UInt8 → List UInt8 → σ × Step) (state : σ) (skip : Nat) :
    List UInt8 → Except ReadingFault Reading
  | [] => .ok []
  | b :: rest =>
    match skip with
    | skip + 1 => readFrom step state skip rest
    | 0 =>
      match step state b rest with
      | (next, .chars size numbers) => do
        let reading ← readFrom step next (size - 1) rest
        return numbers.map some ++ reading
      | (next, .nothing size) => do
        let reading ← readFrom step next (size - 1) rest
        return none :: reading
      | (_, .short) =>
        if mostWaiting < rest.length + 1 then .error .undecodable else .ok [none]

/-- Reads bytes step by step, each step being independent of those before. -/
def readEach (step : UInt8 → List UInt8 → Step) (bytes : List UInt8) :
    Except ReadingFault Reading :=
  readFrom (fun (_ : Unit) b rest => ((), step b rest)) () 0 bytes

/-- A step of a set in which ASCII characters have one byte and the others two. -/
def doubleStep (pair : UInt8 → UInt8 → Option (List Nat)) (b : UInt8) (rest : List UInt8) :
    Step :=
  if b < 0x80 then .char 1 b.toNat
  else match rest with
    | [] => .short
    | second :: _ => .pair? (pair b second)

/-- A character set. -/
structure Charset where
  name : String
  aliases : List String
  /-- What bytes stand for. -/
  read : List UInt8 → Except ReadingFault Reading
  /-- What bytes stand for if every one of them has a meaning. -/
  readWhole? : List UInt8 → Option (List Nat) := fun bytes =>
    (read bytes).toOption.bind fun reading => reading.mapM id

/-- A character set of single bytes: those below `first` stand for themselves, those from there on
for the characters of a table. The replacement character in the table marks a byte that stands for
nothing, as does its end. -/
def Charset.ofTable (name : String) (aliases : List String) (first : Nat) (table : String) :
    Charset :=
  let chars := table.toList.toArray
  let number (b : UInt8) : Option Nat :=
    if b.toNat < first then some b.toNat
    else (chars[b.toNat - first]?).bind fun c => if c == replacement then none else some c.toNat
  { name, aliases, read := fun bytes => .ok (bytes.map number) }

/-- Small letters, digits and points as they are; what stands between them counts as one
underscore. -/
def plainName (name : String) : String :=
  let kept (c : Char) : Bool := c.isAlphanum || c == '.'
  let rec go : List Char → Bool → List Char
    | [], _ => []
    | c :: cs, gap =>
      if kept c then (if gap then ['_', c.toLower] else [c.toLower]) ++ go cs false
      else go cs true
  String.ofList (go (name.toList.dropWhile (!kept ·)) false)

/-- Whether a plain name is that of a character set: one of its aliases, in which an underscore may
be written as a point, or its name. -/
def Charset.isNamed (charset : Charset) (name : String) : Bool :=
  let withoutPoints := String.ofList (name.toList.map fun c => if c == '.' then '_' else c)
  charset.aliases.contains name || charset.aliases.contains withoutPoints || charset.name == name

end ServiceCli.Text
