import ServiceCli.Yaml.Quoted

set_option autoImplicit false
set_option relaxedAutoImplicit false

namespace ServiceCli.Yaml

/-- The characters that end a plain scalar inside brackets. -/
def bracketMarks : List Char := [',', '?', '[', ']', '\x7b', '\x7d']

/-- Whether what follows a colon makes it the mark of a value. -/
def endsKey (inBrackets : Bool) (next : Option Char) : Bool :=
  endsWord next || (inBrackets && next.any fun c => c != '?' && bracketMarks.contains c)

/-- The characters of a plain scalar up to a space or to its end. -/
def plainRun (inBrackets : Bool) : List Char → List Char
  | [] => []
  | c :: rest =>
    if isGap c || isBreak c || (c == ':' && endsKey inBrackets rest.head?)
        || (inBrackets && bracketMarks.contains c) then []
    else c :: plainRun inBrackets rest

/-- Further line breaks and the spaces between them; `none` when a boundary of documents stands
after one of them. -/
def plainBreaks : Nat → Cursor → Option (List Char) × Cursor
  | 0, p => (some [], p)
  | fuel + 1, p =>
    let p := p.skipSpaces
    match p.takeBreak? with
    | none => (some [], p)
    | some (c, q) =>
      if q.isAtBoundary then (none, q)
      else
        let (cs, r) := plainBreaks fuel q
        (cs.map (c :: ·), r)

/-- What separates two parts of a plain scalar. -/
structure Gap where
  text : List Char
  after : Cursor
  brokeLine : Bool

/-- The spaces and line breaks that come next, folded; nothing separates a scalar from a boundary
of documents. -/
def plainGap (p : Cursor) : Gap :=
  let q := p.skipSpaces
  match q.takeBreak? with
  | none => ⟨p.run (· == ' '), q, false⟩
  | some (first, r) =>
    if r.isAtBoundary then ⟨[], r, true⟩
    else match plainBreaks r.fuel r with
      | (some further, s) => ⟨foldBreaks first further, s, true⟩
      | (none, s) => ⟨[], s, true⟩

/-- A plain scalar, the place after it, and whether a line ended before that place. -/
structure PlainScalar where
  text : List Char
  after : Cursor
  brokeLine : Bool

/-- The parts of a plain scalar from here on; `gap` is what separates them from the parts before.
Outside brackets a line that starts before column `indent` ends the scalar. -/
def plainFrom (inBrackets : Bool) (indent : Nat) : Nat → List Char → Bool → Cursor → PlainScalar
  | 0, _, brokeLine, p => ⟨[], p, brokeLine⟩
  | fuel + 1, gap, brokeLine, p =>
    let part := if p.next == some '#' then [] else plainRun inBrackets p.rest
    if part.isEmpty then ⟨[], p, brokeLine⟩
    else
      let next := plainGap (p.skip part.length)
      if next.text.isEmpty || next.after.next == some '#'
          || (!inBrackets && next.after.column < indent) then
        ⟨gap ++ part, next.after, next.brokeLine⟩
      else
        let more := plainFrom inBrackets indent fuel next.text next.brokeLine next.after
        { more with text := gap ++ part ++ more.text }

def plainScalar (inBrackets : Bool) (indent : Nat) (p : Cursor) : PlainScalar :=
  plainFrom inBrackets indent p.fuel [] false p

end ServiceCli.Yaml
