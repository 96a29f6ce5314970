import ServiceCli.Number.Binary64
import ServiceCli.Text.Character

set_option autoImplicit false
set_option relaxedAutoImplicit false

namespace ServiceCli.Number

open ServiceCli.Text

/-- The most decimal digits a whole number may be written with. -/
def digitLimit : Nat := 4300

def isAsciiBlank (c : Char) : Bool := c == ' ' || ('\t' ≤ c && c ≤ '\r')

/-- A character of a numeral in ASCII: digits of every script become digits, blanks beyond ASCII
become spaces, and what is neither becomes a character that no numeral has. -/
def asciiCharacter (c : Char) : Char :=
  if c.toNat < 0x80 then c
  else if isBlank c then ' '
  else match decimalValue? c with
    | some d => Char.ofNat (0x30 + d)
    | none => '?'

def asciiNumeral (s : String) : List Char := s.toList.map asciiCharacter

def trimNumeral (s : String) : List Char :=
  let cs := (asciiNumeral s).dropWhile isAsciiBlank
  (cs.reverse.dropWhile isAsciiBlank).reverse

def takeSign : List Char → Bool × List Char
  | '-' :: rest => (true, rest)
  | '+' :: rest => (false, rest)
  | cs => (false, cs)

/-- The value of a digit in bases up to thirty-six. -/
def digitValue? (c : Char) : Option Nat :=
  if '0' ≤ c && c ≤ '9' then some (c.toNat - 0x30)
  else if 'a' ≤ c && c ≤ 'z' then some (c.toNat - 0x61 + 10)
  else if 'A' ≤ c && c ≤ 'Z' then some (c.toNat - 0x41 + 10)
  else none

/-- The digits of a base with the underscores between them removed; `none` unless each underscore
stands between two digits. `afterDigit` says whether a digit was just read. -/
def digitRun (base : Nat) (afterDigit : Bool) : List Char → Option (List Nat)
  | [] => if afterDigit then some [] else none
  | '_' :: rest => if afterDigit then digitRun base false rest else none
  | c :: rest =>
    match digitValue? c with
    | some d => if d < base then (digitRun base true rest).map (d :: ·) else none
    | none => none

def ofDigits (base : Nat) (ds : List Nat) : Nat := ds.foldl (fun n d => n * base + d) 0

/-- The marks that may stand before digits of base two, eight or sixteen. -/
def baseMark (base : Nat) (c : Char) : Bool :=
  (base == 2 && (c == 'b' || c == 'B')) || (base == 8 && (c == 'o' || c == 'O'))
    || (base == 16 && (c == 'x' || c == 'X'))

/-- A whole number in a base. A mark such as `0x` may stand before the digits of its base, and an
underscore after the mark. -/
def parseInt? (base : Nat) (s : String) : Option Int :=
  let (negative, body) := takeSign (trimNumeral s)
  let (marked, body) := match body with
    | '0' :: m :: rest => if baseMark base m then (true, rest) else (false, body)
    | _ => (false, body)
  let body := match marked, body with
    | true, '_' :: rest => rest
    | _, _ => body
  match digitRun base false body with
  | some ds =>
    if base == 10 && digitLimit < ds.length then none
    else
      let n : Int := ofDigits base ds
      some (if negative then -n else n)
  | none => none

/-- The longest run of digits and single inner underscores at the head of a text, with what
follows; the run is empty when the text does not start with a digit. -/
def takeDigits (cs : List Char) : List Char × List Char :=
  match cs with
  | [] => ([], [])
  | '_' :: d :: rest =>
    if d.isDigit then
      let (ds, tail) := takeDigits rest
      (d :: ds, tail)
    else ([], cs)
  | c :: rest =>
    if c.isDigit then
      let (ds, tail) := takeDigits rest
      (c :: ds, tail)
    else ([], cs)

/-- A run of digits must start with a digit. -/
private def takeRun (cs : List Char) : List Char × List Char :=
  match cs with
  | '_' :: _ => ([], cs)
  | _ => takeDigits cs

def digitsToNat (cs : List Char) : Nat := ofDigits 10 (cs.filterMap digitValue?)

/-- An exponent part: a mark, a sign and digits, or nothing. -/
private def takeExponent (cs : List Char) : Option Int :=
  match cs with
  | [] => some 0
  | e :: rest =>
    if e == 'e' || e == 'E' then
      let (negative, body) := takeSign rest
      match takeRun body with
      | (d :: ds, []) =>
        let n : Int := digitsToNat (d :: ds)
        some (if negative then -n else n)
      | _ => none
    else none

/-- A number with a fraction or an exponent, an infinity or not-a-number. -/
def parseFloat? (s : String) : Option Binary64 :=
  let (negative, body) := takeSign (trimNumeral s)
  let word := String.ofList (body.map Char.toLower)
  if word == "inf" || word == "infinity" then some (.infinite negative)
  else if word == "nan" then some .nan
  else
    let (whole, rest) := takeRun body
    let (fraction, rest) := match rest with
      | '.' :: tail => takeRun tail
      | _ => ([], rest)
    if whole.isEmpty && fraction.isEmpty then none
    else match takeExponent rest with
      | some power =>
        some (.ofDecimal negative (digitsToNat (whole ++ fraction)) (power - fraction.length))
      | none => none

end ServiceCli.Number
