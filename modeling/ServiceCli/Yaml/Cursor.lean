import ServiceCli.Text.Character

set_option autoImplicit false
set_option relaxedAutoImplicit false

namespace ServiceCli.Yaml

def admittedRanges : List Text.CodeRange := [
  (0x9, 0xa), (0xd, 0xd), (0x20, 0x7e), (0x85, 0x85), (0xa0, 0xd7ff), (0xe000, 0xfffd),
  (0x10000, 0x10ffff)]

def isAdmitted (c : Char) : Bool := Text.inRanges admittedRanges c.toNat

/-- The mark at the head of a text that tells the order of bytes. -/
def byteOrderMark : Char := '\ufeff'

def isBreak (c : Char) : Bool :=
  c == '\n' || c == '\r' || c.toNat == 0x85 || c.toNat == 0x2028 || c.toNat == 0x2029

def isGap (c : Char) : Bool := c == ' ' || c == '\t'

def endsLine : Option Char → Bool
  | none => true
  | some c => isBreak c

/-- Whether what comes next is a space or the end of the line. -/
def endsName (next : Option Char) : Bool := next == some ' ' || endsLine next

/-- Whether what comes next is a space, a tab or the end of the line. -/
def endsWord (next : Option Char) : Bool := next == some '\t' || endsName next

def isNameChar (c : Char) : Bool := c.isAlphanum || c == '-' || c == '_'

/-- A place in a text: what follows it, the number of characters before it, its line and its
column, all counted from zero. -/
structure Cursor where
  rest : List Char
  index : Nat
  line : Nat
  column : Nat
  deriving Repr

namespace Cursor

def ofList (text : List Char) : Cursor := ⟨text, 0, 0, 0⟩

def next (p : Cursor) : Option Char := p.rest.head?

def second (p : Cursor) : Option Char := p.rest[1]?

/-- Whether a character that was just passed ended a line; a carriage return before a line feed
does not. -/
def endedLine (c : Char) (rest : List Char) : Bool :=
  isBreak c && !(c == '\r' && rest.head? == some '\n')

def step (p : Cursor) : Cursor :=
  match p.rest with
  | [] => p
  | c :: rest =>
    if endedLine c rest then ⟨rest, p.index + 1, p.line + 1, 0⟩
    else if c == byteOrderMark then ⟨rest, p.index + 1, p.line, p.column⟩
    else ⟨rest, p.index + 1, p.line, p.column + 1⟩

def skip (p : Cursor) : Nat → Cursor
  | 0 => p
  | n + 1 => p.step.skip n

/-- The characters of a class that come next. -/
def run (p : Cursor) (inClass : Char → Bool) : List Char := p.rest.takeWhile inClass

/-- The place after the characters of a class that come next. -/
def skipWhile (p : Cursor) (inClass : Char → Bool) : Cursor := p.skip (p.run inClass).length

def skipSpaces (p : Cursor) : Cursor := p.skipWhile (· == ' ')

/-- The place after spaces, but not beyond a column. -/
def skipIndent (p : Cursor) (column : Nat) : Cursor :=
  p.skip (min (column - p.column) (p.run (· == ' ')).length)

def skipComment (p : Cursor) : Cursor :=
  if p.next == some '#' then p.skipWhile fun c => !isBreak c else p

/-- The end of a line, as it counts in texts, and the place after it: every end of a line is a line
feed, the line and paragraph separators apart. -/
def takeBreak? (p : Cursor) : Option (Char × Cursor) :=
  match p.rest with
  | '\r' :: '\n' :: _ => some ('\n', p.skip 2)
  | c :: _ =>
    if !isBreak c then none
    else if c.toNat == 0x2028 || c.toNat == 0x2029 then some (c, p.step)
    else some ('\n', p.step)
  | [] => none

/-- The place after the end of the line, where the line ends. -/
def skipBreak (p : Cursor) : Cursor :=
  match p.takeBreak? with
  | some (_, q) => q
  | none => p

/-- Whether three equal marks stand here as a word of their own. -/
def hasMarks (p : Cursor) (mark : Char) : Bool :=
  match p.rest with
  | a :: b :: c :: rest => a == mark && b == mark && c == mark && endsWord rest.head?
  | _ => false

/-- Whether the marks of the start or of the end of a document stand here. -/
def isAtBoundary (p : Cursor) : Bool := p.hasMarks '-' || p.hasMarks '.'

/-- Fuel that no reading from here on uses up, since every step passes a character. -/
def fuel (p : Cursor) : Nat := p.rest.length + 2

end Cursor

end ServiceCli.Yaml
