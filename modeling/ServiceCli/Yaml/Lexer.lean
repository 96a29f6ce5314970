import ServiceCli.Yaml.Name
import ServiceCli.Yaml.Plain

/-!
Dividing a text into tokens. A mapping key need not be marked: what may be one is remembered as a
candidate, and when the mark of a value follows on the same line, the token of the key is put where
the candidate began. Outside brackets, indentation opens and closes blocks.
-/

set_option autoImplicit false
set_option relaxedAutoImplicit false

namespace ServiceCli.Yaml

/-- What may turn out to be a key: the number of tokens before it, whether it must be one, and
where it lies. -/
structure Candidate where
  position : Nat
  needed : Bool
  index : Nat
  line : Nat
  column : Nat

/-- The state of the division: the tokens so far, the number of open brackets, the columns of the
open blocks (innermost first, `-1` where there is none), whether a key may begin here, and the
candidates, each with the number of brackets around it. -/
structure Lexer where
  cursor : Cursor
  tokens : Array Token
  depth : Nat
  indent : Int
  outer : List Int
  keyAllowed : Bool
  candidates : List (Nat × Candidate)

namespace Lexer

/-- The state at the beginning of a text; the mark of the order of bytes is passed over. -/
def ofList (text : List Char) : Lexer :=
  let start : Cursor := .ofList text
  let start := if start.next == some byteOrderMark then start.step else start
  ⟨start, #[], 0, -1, [], true, []⟩

def push (s : Lexer) (t : Token) : Lexer := { s with tokens := s.tokens.push t }

/-- The state with one more token and the place after it. -/
def pushAt (s : Lexer) (t : Token) (p : Cursor) : Lexer := { s.push t with cursor := p }

/-- The state with one more token, which is so many characters long. -/
def mark (s : Lexer) (t : Token) (size : Nat) : Lexer := s.pushAt t (s.cursor.skip size)

def inBrackets (s : Lexer) : Bool := s.depth != 0

/-- Passes spaces, comments and line breaks. -/
def skipBlank : Nat → Lexer → Lexer
  | 0, s => s
  | fuel + 1, s =>
    let p := s.cursor.skipSpaces.skipComment
    match p.takeBreak? with
    | none => { s with cursor := p }
    | some (_, q) =>
      -- outside brackets a key may begin on a new line
      skipBlank fuel { s with cursor := q, keyAllowed := s.keyAllowed || !s.inBrackets }

/-- The most characters between the beginning of a key and the mark of its value. -/
def keyLimit : Nat := 1024

/-- Whether the mark of a value comes too late for a candidate. -/
def isStale (p : Cursor) (c : Candidate) : Bool :=
  c.line != p.line || keyLimit < p.index - c.index

/-- Forgets the candidates that can no longer be keys. -/
def dropStale (s : Lexer) : Reading Lexer := do
  require (!s.candidates.any fun c => isStale s.cursor c.2 && c.2.needed)
  return { s with candidates := s.candidates.filter fun c => !isStale s.cursor c.2 }

/-- Forgets the candidate between the innermost brackets. -/
def dropCandidate (s : Lexer) : Reading Lexer := do
  require (!(s.candidates.lookup s.depth).any fun c => c.needed)
  return { s with candidates := s.candidates.filter fun c => c.1 != s.depth }

/-- Remembers that a key may begin here; it must be one where a line of a block mapping begins. -/
def saveCandidate (s : Lexer) : Reading Lexer := do
  if !s.keyAllowed then return s
  let s ← s.dropCandidate
  let p := s.cursor
  let needed := !s.inBrackets && s.indent == p.column
  return { s with candidates :=
    (s.depth, ⟨s.tokens.size, needed, p.index, p.line, p.column⟩) :: s.candidates }

/-- Closes the blocks that lie deeper than a column; `outer` are the columns around them. -/
def closeBlocks (column : Int) : List Int → Lexer → Lexer
  | [], s => s
  | around :: outer, s =>
    if s.indent ≤ column then s
    else closeBlocks column outer { s.push .blockEnd with indent := around, outer := outer }

/-- Closes the blocks that lie deeper than a column. Brackets may reach to any column. -/
def unwind (s : Lexer) (column : Int) : Lexer :=
  if s.inBrackets then s else closeBlocks column s.outer s

/-- Opens a block at a column, when it lies deeper than those that are open, with a token put at
a position. -/
def openBlock (s : Lexer) (start : Token) (position column : Nat) : Lexer :=
  if s.inBrackets || column ≤ s.indent then s
  else { s with
    tokens := s.tokens.insertIdxIfInBounds position start
    indent := column
    outer := s.indent :: s.outer }

def openHere (s : Lexer) (start : Token) : Lexer :=
  s.openBlock start s.tokens.size s.cursor.column

/-- Ends everything that is open outside brackets. -/
def closeAll (s : Lexer) : Reading Lexer := do
  let s ← (s.unwind (-1)).dropCandidate
  return { s with keyAllowed := false }

def finish (s : Lexer) : Reading Lexer := do
  return (← s.closeAll).push .streamEnd

def takeDirective (s : Lexer) : Reading Lexer := do
  let s ← s.closeAll
  let (t, p) ← directiveToken s.cursor
  return s.pushAt t p

def takeBoundary (s : Lexer) (t : Token) : Reading Lexer := do
  return (← s.closeAll).mark t 3

def takeOpening (s : Lexer) (t : Token) : Reading Lexer := do
  let s ← s.saveCandidate
  return { s.mark t 1 with depth := s.depth + 1, keyAllowed := true }

def takeClosing (s : Lexer) (t : Token) : Reading Lexer := do
  let s ← s.dropCandidate
  return { s.mark t 1 with depth := s.depth - 1, keyAllowed := false }

def takeComma (s : Lexer) : Reading Lexer := do
  let s ← s.dropCandidate
  return { s.mark .flowEntry 1 with keyAllowed := true }

/-- The mark of an entry of a block sequence. -/
def takeEntry (s : Lexer) : Reading Lexer := do
  require (s.inBrackets || s.keyAllowed)
  let s ← (s.openHere .blockSequenceStart).dropCandidate
  return { s.mark .blockEntry 1 with keyAllowed := true }

def takeKey (s : Lexer) : Reading Lexer := do
  require (s.inBrackets || s.keyAllowed)
  let s ← (s.openHere .blockMappingStart).dropCandidate
  return { s.mark .key 1 with keyAllowed := !s.inBrackets }

/-- The mark of a value: the candidate, where there is one, becomes a key. -/
def takeValue (s : Lexer) : Reading Lexer := do
  match s.candidates.lookup s.depth with
  | some c =>
    let s := { s with
      candidates := s.candidates.filter fun c => c.1 != s.depth
      tokens := s.tokens.insertIdxIfInBounds c.position .key }
    return { (s.openBlock .blockMappingStart c.position c.column).mark .value 1 with
      keyAllowed := false }
  | none => do
    require (s.inBrackets || s.keyAllowed)
    let s ← (s.openHere .blockMappingStart).dropCandidate
    return { s.mark .value 1 with keyAllowed := !s.inBrackets }

def takeProperty (s : Lexer) (read : Cursor → Reading (Token × Cursor)) : Reading Lexer := do
  let s ← s.saveCandidate
  let (t, p) ← read s.cursor
  return { s.pushAt t p with keyAllowed := false }

def readAnchor (p : Cursor) : Reading (Token × Cursor) := do
  let (name, q) ← anchorName p.step
  return (.anchor name, q)

def readAlias (p : Cursor) : Reading (Token × Cursor) := do
  let (name, q) ← anchorName p.step
  return (.alias name, q)

def readQuoted (style : Quotation) (p : Cursor) : Reading (Token × Cursor) := do
  let (text, q) ← quotedScalar style p
  return (.scalar text false, q)

/-- The column that the lines of a scalar reach at least. -/
def innerColumn (s : Lexer) : Nat := (s.indent + 1).toNat

def takeBlock (s : Lexer) (folded : Bool) : Reading Lexer := do
  let s ← s.dropCandidate
  let (text, p) ← blockScalar folded (max 1 s.innerColumn) s.cursor.step
  return { s.pushAt (.scalar text false) p with keyAllowed := true }

def takePlain (s : Lexer) : Reading Lexer := do
  let s ← s.saveCandidate
  let scalar := plainScalar s.inBrackets s.innerColumn s.cursor
  return { s.pushAt (.scalar (String.ofList scalar.text) true) scalar.after with
    keyAllowed := scalar.brokeLine }

/-- The characters that begin no plain scalar. -/
def indicators : List Char := "-?:,[]\x7b\x7d#&*!|>'\"%@".toList ++ [Char.ofNat 0x60]

/-- Whether a plain scalar may begin here: a few indicators may when no space follows. -/
def beginsPlain (s : Lexer) (c : Char) : Bool :=
  (!endsWord (some c) && !indicators.contains c)
    || (!endsWord s.cursor.second && (c == '-' || (!s.inBrackets && (c == '?' || c == ':'))))

/-- The next token, which begins with a character. -/
def takeFrom (s : Lexer) (c : Char) : Reading Lexer :=
  let p := s.cursor
  let spaced := endsWord p.second
  if c == '%' && p.column == 0 then s.takeDirective
  else if p.column == 0 && p.hasMarks '-' then s.takeBoundary .documentStart
  else if p.column == 0 && p.hasMarks '.' then s.takeBoundary .documentEnd
  else if c == '[' then s.takeOpening .flowSequenceStart
  else if c == '\x7b' then s.takeOpening .flowMappingStart
  else if c == ']' then s.takeClosing .flowSequenceEnd
  else if c == '\x7d' then s.takeClosing .flowMappingEnd
  else if c == ',' then s.takeComma
  else if c == '-' && spaced then s.takeEntry
  else if c == '?' && (s.inBrackets || spaced) then s.takeKey
  else if c == ':' && (s.inBrackets || spaced) then s.takeValue
  else if c == '*' then s.takeProperty readAlias
  else if c == '&' then s.takeProperty readAnchor
  else if c == '!' then s.takeProperty tagToken
  else if c == '|' && !s.inBrackets then s.takeBlock false
  else if c == '>' && !s.inBrackets then s.takeBlock true
  else if c == '\'' then s.takeProperty (readQuoted .single)
  else if c == '"' then s.takeProperty (readQuoted .double)
  else if s.beginsPlain c then s.takePlain
  else malformed

/-- Where the text cannot be divided further: the tokens before the first candidate, since what
follows is not certain while there is one, and the cause. -/
def halted (s : Lexer) (cause : Refusal) : Array Token :=
  let waiting := s.candidates.filter fun c => !isStale s.cursor c.2
  let certain := waiting.foldl (fun n c => min n c.2.position) s.tokens.size
  (s.tokens.take certain).push (.halt cause)

/-- The state after the next token, and whether that was the end of the text. -/
def advance (s : Lexer) : Reading (Lexer × Bool) := do
  let s ← (s.skipBlank s.cursor.fuel).dropStale
  let s := s.unwind s.cursor.column
  match s.cursor.next with
  | none => return (← s.finish, true)
  | some c => return (← s.takeFrom c, false)

/-- The tokens from here on; the last one is the end of the text or tells why it is not reached. -/
def run : Nat → Lexer → Array Token
  | 0, s => s.halted .malformed
  | fuel + 1, s =>
    match s.advance with
    | .error cause => s.halted cause
    | .ok (t, true) => t.tokens
    | .ok (t, false) => run fuel t

end Lexer

def tokensOf (text : List Char) : List Token :=
  let s : Lexer := .ofList text
  (Lexer.run s.cursor.fuel s).toList

end ServiceCli.Yaml
