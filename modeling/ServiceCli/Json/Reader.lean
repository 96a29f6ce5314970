import ServiceCli.Data.Value
import ServiceCli.Json.Quoted
import ServiceCli.Number.Numeral
import ServiceCli.Text.Split

/-!
The JSON reader. White space is space, tab, line feed and carriage return; `NaN`, `Infinity` and
`-Infinity` are numbers; of equal names in an object the last value stays, in the first one's
place. A failure names the problem and where in the text it was met. Values may be nested as deep as
a text goes: how deep a reader may recurse is a limit of the machine, and none of the language.
-/

set_option autoImplicit false
set_option relaxedAutoImplicit false

namespace ServiceCli.Json

open ServiceCli.Data ServiceCli.Number ServiceCli.Text

def isSpace (c : Char) : Bool := c == ' ' || c == '\t' || c == '\n' || c == '\r'

def skipSpace (cs : List Char) : List Char := cs.dropWhile isSpace

/-- The digits at the head of a text, and what follows. -/
def spanDigits (cs : List Char) : List Char × List Char :=
  (cs.takeWhile Char.isDigit, cs.dropWhile Char.isDigit)

/-- A fraction part: a point with at least one digit after it. -/
def takeFraction (cs : List Char) : Option (List Char) × List Char :=
  match cs with
  | '.' :: d :: rest =>
    if d.isDigit then
      let (ds, tail) := spanDigits (d :: rest)
      (some ds, tail)
    else (none, cs)
  | _ => (none, cs)

/-- An exponent part: `e` or `E`, an optional sign and at least one digit. -/
def takePower (cs : List Char) : Option Int × List Char :=
  match cs with
  | e :: rest =>
    if e == 'e' || e == 'E' then
      let (negative, body) := takeSign rest
      match spanDigits body with
      | ([], _) => (none, cs)
      | (ds, tail) =>
        let n : Int := digitsToNat ds
        (some (if negative then -n else n), tail)
    else (none, cs)
  | [] => (none, cs)

/-- The whole part of a number: a zero, or digits that do not start with one. -/
def takeWhole (cs : List Char) : Option (List Char × List Char) :=
  match cs with
  | '0' :: rest => some (['0'], rest)
  | d :: rest => if d.isDigit then some (spanDigits (d :: rest)) else none
  | [] => none

/-- A number at the head of a text. `start` is what a failure reports as the rest of the text. -/
def readNumber (start : List Char) : Except Stop (Value × List Char) :=
  let (negative, body) := match start with
    | '-' :: rest => (true, rest)
    | _ => (false, start)
  match takeWhole body with
  | none => .error ⟨.expectingValue, start.length⟩
  | some (whole, rest) =>
    let (fraction, rest) := takeFraction rest
    let (power, rest) := takePower rest
    match fraction, power with
    | none, none =>
      if digitLimit < whole.length then .error ⟨.tooManyDigits whole.length, start.length⟩
      else
        let n : Int := digitsToNat whole
        .ok (.int (if negative then -n else n), rest)
    | fraction, power =>
      let ds := fraction.getD []
      .ok (.float (.ofDecimal negative (digitsToNat (whole ++ ds)) (power.getD 0 - ds.length)),
        rest)

/-- A name, a constant or a number: a value that is no container and no string. -/
def readPlain (cs : List Char) : Except Stop (Value × List Char) :=
  match cs with
  | 'n' :: 'u' :: 'l' :: 'l' :: rest => .ok (.null, rest)
  | 't' :: 'r' :: 'u' :: 'e' :: rest => .ok (.bool true, rest)
  | 'f' :: 'a' :: 'l' :: 's' :: 'e' :: rest => .ok (.bool false, rest)
  | 'N' :: 'a' :: 'N' :: rest => .ok (.float .nan, rest)
  | 'I' :: 'n' :: 'f' :: 'i' :: 'n' :: 'i' :: 't' :: 'y' :: rest =>
    .ok (.float (.infinite false), rest)
  | '-' :: 'I' :: 'n' :: 'f' :: 'i' :: 'n' :: 'i' :: 't' :: 'y' :: rest =>
    .ok (.float (.infinite true), rest)
  | _ => readNumber cs

/-- Fuel that no text of this length uses up: a bracket takes two steps and no character more. -/
abbrev fuelFor (cs : List Char) : Nat := 2 * cs.length + 2

mutual
/-- A value at the head of a text, with what follows. -/
def readValue : Nat → List Char → Except Stop (Value × List Char)
  | 0, cs => .error ⟨.expectingValue, cs.length⟩
  | fuel + 1, cs =>
    match cs with
    | '"' :: rest => do
      let (s, tail) ← readString cs.length rest
      return (.str (String.ofList s), tail)
    | '\x7b' :: rest =>
      match skipSpace rest with
      | '\x7d' :: tail => .ok (.map [], tail)
      | inner => readMembers fuel [] inner
    | '[' :: rest =>
      match skipSpace rest with
      | ']' :: tail => .ok (.list [], tail)
      | inner => readItems fuel inner
    | _ => readPlain cs
/-- The items of an array up to its closing bracket. -/
def readItems : Nat → List Char → Except Stop (Value × List Char)
  | 0, cs => .error ⟨.expectingValue, cs.length⟩
  | fuel + 1, cs => do
    let (v, rest) ← readValue fuel cs
    match skipSpace rest with
    | ']' :: tail => return (.list [v], tail)
    | ',' :: tail => do
      let (more, tail) ← readItems fuel (skipSpace tail)
      match more with
      | .list vs => return (.list (v :: vs), tail)
      | other => return (.list [v, other], tail)
    | other => .error ⟨.expectingComma, other.length⟩
/-- The members of an object up to its closing brace; `done` holds those before. -/
def readMembers : Nat → Entries → List Char → Except Stop (Value × List Char)
  | 0, _, cs => .error ⟨.expectingValue, cs.length⟩
  | fuel + 1, done, cs =>
    match cs with
    | '"' :: rest => do
      let (name, rest) ← readString cs.length rest
      match skipSpace rest with
      | ':' :: rest => do
        let (v, rest) ← readValue fuel (skipSpace rest)
        let entries := Entries.put done (.str (String.ofList name)) v
        match skipSpace rest with
        | '\x7d' :: tail => return (.map entries, tail)
        | ',' :: tail => readMembers fuel entries (skipSpace tail)
        | other => .error ⟨.expectingComma, other.length⟩
      | other => .error ⟨.expectingColon, other.length⟩
    | other => .error ⟨.expectingName, other.length⟩
end

/-- Why a text is no JSON, and the index where that was found. -/
structure ReadError where
  problem : Problem
  index : Nat
  deriving DecidableEq, Repr

def readList (cs : List Char) : Except ReadError Value :=
  let located : Except Stop Value := match cs with
    | '\ufeff' :: _ => .error ⟨.byteOrderMark, cs.length⟩
    | _ => do
      let (v, rest) ← readValue (fuelFor cs) (skipSpace cs)
      match skipSpace rest with
      | [] => return v
      | other => .error ⟨.extraData, other.length⟩
  match located with
  | .ok v => .ok v
  | .error stop => .error ⟨stop.problem, cs.length - stop.left⟩

def read (s : String) : Except ReadError Value := readList s.toList

/-- The wording of a failure, together with its place in the text where it has one. -/
def ReadError.located (e : ReadError) (s : String) : String :=
  let p := placeOf s.toList e.index
  if e.problem.isOfGrammar then
    s!"{e.problem.message}: line {p.line} column {p.column} (char {e.index})"
  else e.problem.message

end ServiceCli.Json
