import ServiceCli.Data.Value
import ServiceCli.Text.LetterCase
import ServiceCli.Yaml.Tag
import ServiceCli.Yaml.Token

set_option autoImplicit false
set_option relaxedAutoImplicit false

namespace ServiceCli.Yaml

/-! ### Base 64

Four characters stand for three bytes. Characters outside the alphabet are skipped; padding that
completes a group of four ends the text.
-/

def sextet? (c : Char) : Option Nat :=
  if 'A' ≤ c && c ≤ 'Z' then some (c.toNat - 0x41)
  else if 'a' ≤ c && c ≤ 'z' then some (c.toNat - 0x61 + 26)
  else if '0' ≤ c && c ≤ '9' then some (c.toNat - 0x30 + 52)
  else if c == '+' then some 62
  else if c == '/' then some 63
  else none

/-- The bytes that characters stand for, or `none` for a group that is cut off. `position` counts
the values in the current group, `carry` holds the bits that are left of the last one, `pads` counts
the padding since then. -/
def decodeFrom64 (position carry pads : Nat) : List Char → Option (List UInt8)
  | [] => if position == 0 then some [] else none
  | c :: rest =>
    if c == '=' then
      if 2 ≤ position && 4 ≤ position + (pads + 1) then some []
      else decodeFrom64 position carry (if 2 ≤ position then pads + 1 else pads) rest
    else match sextet? c with
      | none => decodeFrom64 position carry pads rest
      | some v =>
        match position with
        | 0 => decodeFrom64 1 v 0 rest
        | 1 => (decodeFrom64 2 (v % 16) 0 rest).map ((carry * 4 + v / 16).toUInt8 :: ·)
        | 2 => (decodeFrom64 3 (v % 4) 0 rest).map ((carry * 16 + v / 4).toUInt8 :: ·)
        | _ => (decodeFrom64 0 0 0 rest).map ((carry * 64 + v).toUInt8 :: ·)

def decode64 (s : String) : Option (List UInt8) := decodeFrom64 0 0 0 s.toList

/-! ### Atoms -/

open ServiceCli.Data ServiceCli.Number

def boolAtom (text : String) : Reading Scalar :=
  match boolWords.lookup (Text.lower text) with
  | some b => .ok (.bool b)
  | none => faulted .absentKey

def wholeIn (base : Nat) (cs : List Char) : Reading Int :=
  match parseInt? base (String.ofList cs) with
  | some i => .ok i
  | none => faulted .malformedValue

def fromSixtieths (parts : List Int) : Int := parts.foldl (fun n d => n * 60 + d) 0

/-- A whole number without its sign. -/
def unsignedInt (cs : List Char) : Reading Int :=
  match cs with
  | [] => faulted .absentIndex
  | ['0'] => .ok 0
  | '0' :: 'b' :: rest => wholeIn 2 rest
  | '0' :: 'x' :: rest => wholeIn 16 rest
  | '0' :: _ => wholeIn 8 cs
  | _ =>
    match Text.splitAt ':' cs with
    | [_] => wholeIn 10 cs
    | parts => do return fromSixtieths (← parts.mapM (wholeIn 10))

/-- A number's text without underscores: whether it is negative, and the rest. -/
def signed (text : String) : Reading (Bool × List Char) :=
  match text.toList.filter (· != '_') with
  | [] => faulted .absentIndex
  | '-' :: rest => .ok (true, rest)
  | cs => .ok (false, unsigned cs)

def intAtom (text : String) : Reading Scalar := do
  let (negative, body) ← signed text
  let i ← unsignedInt body
  return .int (if negative then -i else i)

/-- A number with a fraction that has no parts. -/
def simpleFloat (cs : List Char) : Reading Binary64 :=
  match parseFloat? (String.ofList cs) with
  | some x => .ok x
  | none => faulted .malformedValue

/-- The sum of digits in base sixty, the last one first, and of a sum so far; the next digit counts
`base`, which must be in the range of numbers. -/
def sumSixtieths (base : Nat) (sum : Binary64) : List Binary64 → Reading Binary64
  | [] => .ok sum
  | d :: ds =>
    match Binary64.ofInt base with
    | .infinite _ => faulted .numberTooLarge
    | weight => sumSixtieths (base * 60) (sum.add (d.mul weight)) ds

def nanWord : List Char := ".nan".toList

/-- A number with a fraction without its sign, in small letters. -/
def unsignedFloat (cs : List Char) : Reading Binary64 :=
  if cs == ".inf".toList then .ok (.infinite false)
  else if cs == nanWord then .ok .nan
  else match Text.splitAt ':' cs with
    | [_] => simpleFloat cs
    | parts => do sumSixtieths 1 (.zero false) (← parts.mapM simpleFloat).reverse

def floatAtom (text : String) : Reading Scalar := do
  let (negative, body) ← signed (Text.lower text)
  let x ← unsignedFloat body
  return .float (if negative then x.neg else x)

def isNotANumber (text : String) : Bool :=
  match signed (Text.lower text) with
  | .ok (_, body) => body == nanWord
  | .error _ => false

/-- A day, or an instant on it, which must exist. -/
def stampAtom (text : String) : Reading Scalar :=
  match Stamp.ofList? (withoutFinalBreak text).toList with
  | none => faulted .absentOperation
  | some stamp =>
    let m : Moment := ⟨stamp.date, stamp.time⟩
    if m.exists then .ok (.moment m) else faulted .malformedValue

def binaryAtom (text : String) : Reading Scalar := do
  require (text.toList.all fun c => c.toNat < 0x80)
  match decode64 text with
  | some bytes => return .bytes bytes
  | none => malformed

/-- What a tag makes of the text of a scalar; `none` for a tag whose nodes have parts. -/
def atomOf? : Tag → Option (String → Reading Scalar)
  | .null => some fun _ => .ok .null
  | .bool => some boolAtom
  | .int => some intAtom
  | .float => some floatAtom
  | .timestamp => some stampAtom
  | .binary => some binaryAtom
  | .text => some fun s => .ok (.str s)
  | _ => none

end ServiceCli.Yaml
