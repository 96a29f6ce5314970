import ServiceCli.Yaml.Cursor
import ServiceCli.Yaml.Token

set_option autoImplicit false
set_option relaxedAutoImplicit false

namespace ServiceCli.Yaml

/-- What becomes of the line breaks at the end: all are dropped, one is kept, or all are. -/
inductive Chomping where
  | strip
  | clip
  | keep
  deriving DecidableEq, Repr

/-- The header of a block scalar. -/
structure BlockHeader where
  chomping : Chomping
  indent : Option Nat

/-- The mark of what becomes of the last line breaks. -/
def chompingOf? : Option Char → Option Chomping
  | some '+' => some .keep
  | some '-' => some .strip
  | _ => none

/-- The number of columns that a header tells; it is not zero. -/
def indentMark (p : Cursor) : Reading (Option Nat × Cursor) :=
  match p.next with
  | some c =>
    if !c.isDigit then .ok (none, p)
    else if c == '0' then malformed
    else .ok (some (c.toNat - 0x30), p.step)
  | none => .ok (none, p)

/-- The two marks of a header, in either order. -/
def headerMarks (p : Cursor) : Reading (BlockHeader × Cursor) := do
  match chompingOf? p.next with
  | some chomping => do
    let (indent, q) ← indentMark p.step
    return (⟨chomping, indent⟩, q)
  | none => do
    let (indent, q) ← indentMark p
    match indent, chompingOf? q.next with
    | some _, some chomping => return (⟨chomping, indent⟩, q.step)
    | _, _ => return (⟨.clip, indent⟩, q)

/-- The place after the rest of a line that holds at most a comment. -/
def endLine (p : Cursor) : Reading Cursor := do
  let q := p.skipSpaces.skipComment
  require (endsLine q.next)
  return q.skipBreak

/-- A header, and the place where the lines begin. -/
def blockHeader (p : Cursor) : Reading (BlockHeader × Cursor) := do
  let (header, q) ← headerMarks p
  require (endsName q.next)
  return (header, ← endLine q)

/-- Leading empty lines: their breaks, and the greatest column that spaces reach. -/
def leadingLines : Nat → Cursor → List Char × Nat × Cursor
  | 0, p => ([], 0, p)
  | fuel + 1, p =>
    let q := p.skipSpaces
    let column := if q.index = p.index then 0 else q.column
    match q.takeBreak? with
    | none => ([], column, q)
    | some (c, r) =>
      let (cs, further, s) := leadingLines fuel r
      (c :: cs, max column further, s)

/-- Empty lines, whose spaces reach at most a column. -/
def emptyLines (indent : Nat) : Nat → Cursor → List Char × Cursor
  | 0, p => ([], p)
  | fuel + 1, p =>
    let q := p.skipIndent indent
    match q.takeBreak? with
    | none => ([], q)
    | some (c, r) =>
      let (cs, s) := emptyLines indent fuel r
      (c :: cs, s)

/-- What stands between two lines of a block scalar. -/
def lineGap (folded : Bool) (before after : Option Char) (first : List Char) (further : List Char) :
    List Char :=
  let plain (next : Option Char) : Bool := !(next.any isGap)
  if folded && first == ['\n'] && plain before && plain after then
    if further.isEmpty then [' '] else []
  else first

/-- The line breaks at the end of a block scalar. -/
def chomped (chomping : Chomping) (last further : List Char) : List Char :=
  match chomping with
  | .strip => []
  | .clip => last
  | .keep => last ++ further

/-- The lines of a block scalar; `breaks` are the empty lines before the next one. -/
def blockLines (folded : Bool) (chomping : Chomping) (indent : Nat) :
    Nat → List Char → Cursor → List Char × Cursor
  | 0, _, p => ([], p)
  | fuel + 1, breaks, p =>
    let line := p.run fun c => !isBreak c
    let q := p.skip line.length
    let (last, r) := match q.takeBreak? with
      | some (c, r) => ([c], r)
      | none => ([], q)
    let (further, s) := emptyLines indent r.fuel r
    if s.column = indent && s.next.isSome then
      let gap := lineGap folded p.next s.next last further
      let (more, t) := blockLines folded chomping indent fuel further s
      (breaks ++ line ++ gap ++ more, t)
    else (breaks ++ line ++ chomped chomping last further, s)

/-- The lines of a block scalar, with the empty lines before the first one. A scalar without lines
has no last line break. -/
def blockBody (folded : Bool) (chomping : Chomping) (indent : Nat) (breaks : List Char)
    (p : Cursor) : List Char × Cursor :=
  if p.column = indent && p.next.isSome then blockLines folded chomping indent p.fuel breaks p
  else (chomped chomping [] breaks, p)

/-- A block scalar whose header begins here. Its lines are indented at least to column `least`. -/
def blockScalar (folded : Bool) (least : Nat) (p : Cursor) : Reading (String × Cursor) := do
  let (header, q) ← blockHeader p
  let (indent, breaks, r) := match header.indent with
    | none =>
      let (breaks, deepest, r) := leadingLines q.fuel q
      (max least deepest, breaks, r)
    | some n =>
      let indent := least + n - 1
      let (breaks, r) := emptyLines indent q.fuel q
      (indent, breaks, r)
  let (cs, s) := blockBody folded header.chomping indent breaks r
  return (String.ofList cs, s)

end ServiceCli.Yaml
