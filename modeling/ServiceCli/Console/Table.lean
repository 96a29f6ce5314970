import ServiceCli.Console.Markup
import ServiceCli.Console.Wrap
import ServiceCli.Failure
import ServiceCli.Number.Binary64

set_option autoImplicit false
set_option relaxedAutoImplicit false

namespace ServiceCli.Console

/-- A table. Rows may be longer or shorter than the heading. -/
structure Table where
  title : Option String
  headers : List String
  rows : List (List String)
  deriving Repr

def headingStyle : Style := ⟨[(.bold, true)], some ⟨"cyan", .numbered 6⟩, none, none⟩

def titleStyle : Style := ⟨[(.italic, true)], none, none, none⟩

/-- What a cell shows: characters and the styles of their parts. -/
structure Cell where
  inks : List Ink
  styles : List Style
  deriving Repr

def Cell.empty : Cell := ⟨[], []⟩

def Cell.ofMarkup (s : String) : Outcome Cell := do
  let text ← StyledText.ofMarkup s.toList
  return ⟨text.inks, ← ofStyle text.styles⟩

/-- The characters that separate lines where a cell is measured. -/
def lineBreaks : List Nat := [0xa, 0x1c, 0x1d, 0x1e, 0x85, 0x2028, 0x2029]

def measuredLines (line : List Char) : List Char → List (List Char)
  | [] => [line]
  | c :: rest =>
    if lineBreaks.contains c.toNat then line :: measuredLines [] rest
    else measuredLines (line ++ [c]) rest

def greatest (ns : List Nat) : Nat := ns.foldl max 0

def sumOf (ns : List Nat) : Nat := ns.foldl (· + ·) 0

/-- The width of a cell: of its widest line, and one cell on each side. -/
def Cell.size (cell : Cell) : Nat :=
  greatest ((measuredLines [] (inkChars cell.inks)).map cells) + 2

/-- Takes shares of a total from values, in proportion to their ratios and at most so much each;
shares are rounded to the nearest whole number. -/
def takeShares (total totalRatio limit : Nat) : List (Nat × Nat) → List Nat
  | [] => []
  | (ratio, value) :: rest =>
    if ratio == 0 || totalRatio == 0 || limit == 0 then
      value :: takeShares total totalRatio limit rest
    else
      let share := min limit (Number.Binary64.divideToEven (ratio * total) totalRatio)
      (value - share) :: takeShares (total - share) (totalRatio - ratio) limit rest

/-- Makes the widest columns narrower until all fit, or all are equally wide; `steps` bounds the
rounds. -/
def collapse (limit : Nat) : Nat → List Nat → List Nat
  | 0, widths => widths
  | steps + 1, widths =>
    let total := sumOf widths
    let widest := greatest widths
    let second := greatest (widths.filter (· != widest))
    if total ≤ limit || widest == second then widths
    else
      let shares := widths.map fun w => (if w == widest then 1 else 0, w)
      let most := min (total - limit) (widest - second)
      collapse limit steps (takeShares (total - limit) (sumOf (shares.map (·.1))) most shares)

def columnWidths (limit : Nat) (sizes : List Nat) : List Nat :=
  let sizes := sizes.map (min limit)
  if sumOf sizes ≤ limit then sizes
  else
    let widths := collapse limit (sizes.length + sumOf sizes) sizes
    if sumOf widths ≤ limit then widths
    else
      let shares := widths.map fun w => (1, w)
      takeShares (sumOf widths - limit) widths.length (greatest widths) shares

/-- The lines of a cell of a width, with one space on each side; none where that is all. -/
def Cell.lines (p : Palette) (base : Style) (width : Nat) (cell : Cell) : List (List Char) :=
  if width ≤ 2 then []
  else (wrapInks ⟨width - 2, .ellipsis, .left⟩ cell.inks).map fun line =>
    base.paint p [' '] ++ paintInks p false base cell.styles line
      ++ base.paint p (fill (width - 2) (inkChars line)) ++ base.paint p [' ']

/-- A kind of row: a heading, whose text stands at the bottom, or a row with its text at the top. -/
inductive RowKind where
  | heading
  | body
  deriving DecidableEq, Repr

namespace RowKind

def base : RowKind → Style
  | .heading => headingStyle
  | .body => .plain

/-- The mark at the sides of a row and between its cells. -/
def mark : RowKind → Char
  | .heading => '┃'
  | .body => '│'

def fillHeight (kind : RowKind) (p : Palette) (width height : Nat) (lines : List (List Char)) :
    List (List Char) :=
  let blank := kind.base.paint p (List.replicate width ' ')
  let blanks := List.replicate (height - lines.length) blank
  match kind with
  | .heading => blanks ++ lines
  | .body => lines ++ blanks

end RowKind

def sideBySide (mark : Char) (height : Nat) (columns : List (List (List Char))) :
    List (List Char) :=
  (List.range height).map fun i => [mark].intercalate (columns.map fun lines => lines.getD i [])

/-- The lines of a row between the marks of its frame; there is one at least. -/
def rowLines (p : Palette) (kind : RowKind) (widths : List Nat) (row : List Cell) :
    List (List Char) :=
  let columns := List.zipWith (Cell.lines p kind.base) widths row
  let height := greatest (columns.map List.length)
  let filled :=
    List.zipWith (fun width lines => kind.fillHeight p width height lines) widths columns
  let lines :=
    if height = 0 then [[kind.mark].intercalate (widths.map fun width => List.replicate width ' ')]
    else sideBySide kind.mark height filled
  lines.map fun line => kind.mark :: line ++ [kind.mark]

def frameLine (left stroke divider right : Char) (widths : List Nat) : List Char :=
  left :: [divider].intercalate (widths.map fun w => List.replicate w stroke) ++ [right]

def titleLines (p : Palette) (width : Nat) (title : Cell) : List (List Char) :=
  (wrapInks ⟨width, .fold, .center⟩ title.inks).map (paintInks p true titleStyle title.styles)

/-- The title of a table; an empty one is none. -/
def titleCell? : Option String → Outcome (Option Cell)
  | some s => if s.isEmpty then .ok none else do return some (← Cell.ofMarkup s)
  | none => .ok none

/-- The cells of a table by columns, each with its heading first. Rows that are too short are filled
up. -/
def Table.columns (t : Table) : Outcome (List (List Cell)) :=
  let rows := t.headers :: t.rows
  (List.range (greatest (rows.map List.length))).mapM fun i =>
    rows.mapM fun row => Cell.ofMarkup (row.getD i "")

def Table.lines (t : Table) (p : Palette) (width : Nat) : Outcome (List (List Char)) := do
  let columns ← t.columns
  let title ← titleCell? t.title
  let sizes := columns.map fun cells => greatest (cells.map Cell.size)
  let widths := columnWidths (width - (columns.length + 1)) sizes
  let total := sumOf widths + columns.length + 1
  let row (kind : RowKind) (k : Nat) : List (List Char) :=
    rowLines p kind widths (columns.map fun cells => cells.getD k .empty)
  -- a table without columns is an empty line
  if columns.isEmpty then return [[]]
  else return (title.elim [] (titleLines p total))
    ++ [frameLine '┏' '━' '┳' '┓' widths]
    ++ row .heading 0
    ++ [frameLine '┡' '━' '╇' '┩' widths]
    ++ (List.range t.rows.length).flatMap (fun k => row .body (k + 1))
    ++ [frameLine '└' '─' '┴' '┘' widths]

end ServiceCli.Console
