import ServiceCli.Json.Quoted
import ServiceCli.Yaml.Cursor
import ServiceCli.Yaml.Token

set_option autoImplicit false
set_option relaxedAutoImplicit false

namespace ServiceCli.Yaml

/-- The style of a quoted scalar. -/
inductive Quotation where
  | single
  | double
  deriving DecidableEq, Repr

def Quotation.mark : Quotation → Char
  | .single => '\''
  | .double => '"'

def escapes : List (Char × Nat) := [
  ('0', 0x0), ('a', 0x7), ('b', 0x8), ('t', 0x9), ('\t', 0x9), ('n', 0xa), ('v', 0xb), ('f', 0xc),
  ('r', 0xd), ('e', 0x1b), (' ', 0x20), ('"', 0x22), ('\\', 0x5c), ('/', 0x2f), ('N', 0x85),
  ('_', 0xa0), ('L', 0x2028), ('P', 0x2029)]

/-- The number of hexadecimal digits in escapes by number. -/
def escapeSizes : List (Char × Nat) := [('x', 2), ('u', 4), ('U', 8)]

/-- A number that is written for a character, which must be that of one. -/
def codePoint (n : Nat) : Reading Nat :=
  if 0x80000000 ≤ n then faulted .numberTooLarge
  else if 0x110000 ≤ n then faulted .malformedValue
  else .ok n

def hexNumber (digits : List Char) : Reading Nat :=
  digits.foldlM (fun n c => match Json.hexValue? c with
    | some d => .ok (n * 16 + d)
    | none => malformed) 0

def codesOf (cs : List Char) : List Nat := cs.map Char.toNat

/-- Further line breaks, with the spaces after each. A boundary of documents may not stand at the
beginning of a line. -/
def furtherBreaks : Nat → Cursor → Reading (List Char × Cursor)
  | 0, p => .ok ([], p)
  | fuel + 1, p =>
    if p.isAtBoundary then malformed
    else
      let q := p.skipWhile isGap
      match q.takeBreak? with
      | none => .ok ([], q)
      | some (c, r) => do
        let (cs, s) ← furtherBreaks fuel r
        return (c :: cs, s)

/-- What a line break and those after it count as. -/
def foldBreaks (first : Char) (further : List Char) : List Char :=
  if first != '\n' then first :: further
  else if further.isEmpty then [' ']
  else further

/-- Spaces inside a quoted scalar, folded where a line ends after them. -/
def quotedGap (p : Cursor) : Reading (List Char × Cursor) :=
  let q := p.skipWhile isGap
  match q.next, q.takeBreak? with
  | none, _ => malformed
  | some _, none => .ok (p.run isGap, q)
  | some _, some (first, r) => do
    let (further, s) ← furtherBreaks r.fuel r
    return (foldBreaks first further, s)

/-- An escape after its backslash, as numbers of characters. -/
def quotedEscape (p : Cursor) : Reading (List Nat × Cursor) :=
  match p.next with
  | none => malformed
  | some e =>
    match escapes.lookup e, escapeSizes.lookup e with
    | some n, _ => .ok ([n], p.step)
    | none, some size => do
      let digits := p.step.rest.take size
      require (digits.length == size)
      let n ← codePoint (← hexNumber digits)
      return ([n], p.step.skip size)
    | none, none =>
      match p.takeBreak? with
      -- a line break that is escaped counts as nothing
      | some (_, q) => do
        let (cs, r) ← furtherBreaks q.fuel q
        return (codesOf cs, r)
      | none => malformed

/-- The next part of a quoted scalar as numbers of characters, or `none` at its closing quote. -/
def quotedPart (style : Quotation) (p : Cursor) : Reading (Option (List Nat) × Cursor) :=
  match p.next with
  | none => malformed
  | some c =>
    if c == style.mark then
      if style = .single && p.second == some '\'' then .ok (some [c.toNat], p.skip 2)
      else .ok (none, p.step)
    else if style = .double && c == '\\' then do
      let (codes, q) ← quotedEscape p.step
      return (some codes, q)
    else if isGap c || isBreak c then do
      let (cs, q) ← quotedGap p
      return (some (codesOf cs), q)
    else .ok (some [c.toNat], p.step)

/-- The rest of a quoted scalar up to its closing quote. -/
def quotedFrom (style : Quotation) : Nat → Cursor → Reading (List Nat × Cursor)
  | 0, _ => malformed
  | fuel + 1, p => do
    match ← quotedPart style p with
    | (none, q) => return ([], q)
    | (some codes, q) => do
      let (more, r) ← quotedFrom style fuel q
      return (codes ++ more, r)

def quotedScalar (style : Quotation) (p : Cursor) : Reading (String × Cursor) := do
  let (codes, q) ← quotedFrom style p.fuel p.step
  return (String.ofList (Text.joinHalves codes), q)

end ServiceCli.Yaml
