import ServiceCli.Text.Character

set_option autoImplicit false
set_option relaxedAutoImplicit false

namespace ServiceCli.Text

/-- Ranges of bytes in order, each with its first and its last byte. -/
abbrev ByteRanges := List (Nat × Nat)

namespace ByteRanges

def size (ranges : ByteRanges) : Nat :=
  (ranges.map fun (low, high) => high + 1 - low).foldl (· + ·) 0

def index? : ByteRanges → Nat → Option Nat
  | [], _ => none
  | (low, high) :: rest, b =>
    if low ≤ b && b ≤ high then some (b - low)
    else (index? rest b).map (· + (high + 1 - low))

end ByteRanges

/-- Characters in neighbouring cells, from the cell of two bytes on. The replacement character marks
an empty cell. -/
abbrev Run := Nat × Nat × String

/-- A grid: the bytes that rows and cells have, and the number of the character in each cell, which
is zero in an empty one. -/
structure Grid where
  firsts : ByteRanges
  seconds : ByteRanges
  cells : Array Nat

namespace Grid

def place? (firsts seconds : ByteRanges) (first second : Nat) : Option Nat := do
  let row ← firsts.index? first
  let cell ← seconds.index? second
  return row * seconds.size + cell

def putChars (cells : Array Nat) (place : Nat) : List Char → Array Nat
  | [] => cells
  | c :: cs =>
    let cells := if c == replacement then cells else cells.setIfInBounds place c.toNat
    putChars cells (place + 1) cs

def ofRuns (firsts seconds : ByteRanges) (runs : List Run) : Grid :=
  let empty := Array.replicate (firsts.size * seconds.size) 0
  let cells := runs.foldl (fun cells (first, second, chars) =>
    (place? firsts seconds first second).elim cells fun place =>
      putChars cells place chars.toList) empty
  ⟨firsts, seconds, cells⟩

def ofNumbers (firsts seconds : ByteRanges) (numbers : List Nat) : Grid :=
  ⟨firsts, seconds, numbers.toArray⟩

def number? (grid : Grid) (first second : Nat) : Option Nat := do
  let number ← grid.cells[← place? grid.firsts grid.seconds first second]?
  if number = 0 then none else some number

/-- The numbers of a range that no cell of some grids holds. -/
def lacking (grids : List Grid) (low high : Nat) : List Nat :=
  let all := Array.replicate (high + 1 - low) true
  let marks := grids.foldl (fun marks grid =>
    grid.cells.foldl (fun marks n =>
      if low ≤ n then marks.setIfInBounds (n - low) false else marks) marks) all
  (List.range' low (high + 1 - low)).filter fun n => marks.getD (n - low) false

end Grid

/-- The bytes of rows and cells in grids of 94 rows and cells. -/
def graphicBytes : ByteRanges := [(0x21, 0x7e)]

end ServiceCli.Text
