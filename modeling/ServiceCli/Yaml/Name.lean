import ServiceCli.Number.Numeral
import ServiceCli.Text.Utf8
import ServiceCli.Yaml.Block
import ServiceCli.Yaml.Quoted
import ServiceCli.Yaml.Token

set_option autoImplicit false
set_option relaxedAutoImplicit false

namespace ServiceCli.Yaml

def anchorEnds : List Char := ['?', ':', ',', ']', '\x7d', '%', '@', Char.ofNat 0x60]

def anchorName (p : Cursor) : Reading (String × Cursor) := do
  let name := p.run isNameChar
  let q := p.skip name.length
  require (!name.isEmpty)
  require (endsWord q.next || q.next.any anchorEnds.contains)
  return (String.ofList name, q)

/-- The characters of tags and of what handles stand for. -/
def isTagChar (c : Char) : Bool :=
  c.isAlphanum || "-;/?:@&=+$,_.!~*'()[]%".toList.contains c

/-- A byte that is written as two hexadecimal digits after a percent sign. -/
def escapedByte (p : Cursor) : Reading UInt8 := do
  let digits := p.step.rest.take 2
  require (digits.length == 2)
  return (← hexNumber digits).toUInt8

def escapedBytes : Nat → Cursor → Reading (List UInt8 × Cursor)
  | 0, p => .ok ([], p)
  | fuel + 1, p =>
    if p.next == some '%' then do
      let b ← escapedByte p
      let (bs, q) ← escapedBytes fuel (p.skip 3)
      return (b :: bs, q)
    else .ok ([], p)

/-- The characters of a tag; escaped bytes form characters together. -/
def tagChars : Nat → Cursor → Reading (List Char × Cursor)
  | 0, p => .ok ([], p)
  | fuel + 1, p =>
    match p.next with
    | none => .ok ([], p)
    | some c =>
      if c == '%' then do
        let (bytes, q) ← escapedBytes p.fuel p
        match Text.decode bytes with
        | .error _ => malformed
        | .ok s => do
          let (cs, r) ← tagChars fuel q
          return (s.toList ++ cs, r)
      else if isTagChar c then do
        let (cs, q) ← tagChars fuel p.step
        return (c :: cs, q)
      else .ok ([], p)

/-- The text of a tag, which is at least one character or escape long. -/
def tagText (p : Cursor) : Reading (String × Cursor) := do
  let (cs, q) ← tagChars p.fuel p
  require (p.index < q.index)
  return (String.ofList cs, q)

/-- A handle: a mark, or a name between two of them. -/
def tagHandle (p : Cursor) : Reading (String × Cursor) := do
  require (p.next == some '!')
  let q := p.step
  if q.next == some ' ' then return ("!", q)
  else
    let name := q.run isNameChar
    let r := q.skip name.length
    require (r.next == some '!')
    return (String.ofList ('!' :: name ++ ['!']), r.step)

/-- Whether a second mark occurs before the next space. -/
def hasHandle (p : Cursor) : Bool :=
  p.step.rest.takeWhile (fun c => !endsName (some c)) |>.contains '!'

/-- The handle and the suffix of a tag. -/
def tagParts (p : Cursor) : Reading (Token × Cursor) := do
  if p.second == some '<' then do
    let (suffix, q) ← tagText (p.skip 2)
    require (q.next == some '>')
    return (.tag none suffix, q.step)
  else if endsWord p.second then return (.tag none "!", p.step)
  else
    let (handle, q) ← if hasHandle p then tagHandle p else pure ("!", p.step)
    let (suffix, r) ← tagText q
    return (.tag (some handle) suffix, r)

/-- A tag that begins here; a space follows it. -/
def tagToken (p : Cursor) : Reading (Token × Cursor) := do
  let (token, q) ← tagParts p
  require (endsName q.next)
  return (token, q)

def versionNumber (p : Cursor) : Reading (Nat × Cursor) := do
  let digits := p.run Char.isDigit
  require (!digits.isEmpty)
  if Number.digitLimit < digits.length then faulted .malformedValue
  else return (Number.digitsToNat digits, p.skip digits.length)

def versionDirective (p : Cursor) : Reading (Directive × Cursor) := do
  let (major, q) ← versionNumber p.skipSpaces
  require (q.next == some '.')
  let (_, r) ← versionNumber q.step
  require (endsName r.next)
  return (.version major, r)

def handleDirective (p : Cursor) : Reading (Directive × Cursor) := do
  let (name, q) ← tagHandle p.skipSpaces
  require (q.next == some ' ')
  let (expansion, r) ← tagText q.skipSpaces
  require (endsName r.next)
  return (.handle name expansion, r)

def directiveBody (name : String) (p : Cursor) : Reading (Directive × Cursor) :=
  match name with
  | "YAML" => versionDirective p
  | "TAG" => handleDirective p
  | _ => .ok (.unknown, p.skipWhile fun c => !isBreak c)

/-- A directive that begins here, and the place after its line. -/
def directiveToken (p : Cursor) : Reading (Token × Cursor) := do
  let name := p.step.run isNameChar
  let q := p.step.skip name.length
  require (!name.isEmpty && endsName q.next)
  let (content, r) ← directiveBody (String.ofList name) q
  return (.directive content, ← endLine r)

end ServiceCli.Yaml
