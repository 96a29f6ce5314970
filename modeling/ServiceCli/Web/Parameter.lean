import ServiceCli.Failure
import ServiceCli.Number.Numeral
import ServiceCli.Text.Character
import ServiceCli.Text.Charset
import ServiceCli.Text.LetterCase
import ServiceCli.Text.Split

/-!
The parameters of a header value: names with values between semicolons. A long value may be written
in numbered segments. Segments whose names end in an asterisk hold octets in hexadecimal numbers;
the value then begins with the character set and the language of the octets.
-/

set_option autoImplicit false
set_option relaxedAutoImplicit false

namespace ServiceCli.Web

/-- The value of a parameter: a text, or octets in a character set that may be named. -/
inductive ParameterValue where
  | text (value : String)
  | octets (charset value : String)
  deriving DecidableEq, Repr

/-- A parameter. -/
structure Parameter where
  name : String
  value : ParameterValue
  deriving DecidableEq, Repr

/-- The parts of a header value. A semicolon between quotes separates no parts. -/
def splitParts (quoted : Bool) (previous : Char) : List Char → List (List Char)
  | [] => [[]]
  | c :: rest =>
    if c == ';' && !quoted then [] :: splitParts false c rest
    else
      -- a quote after a backslash is none
      let quoted := if c == '"' && previous != '\\' then !quoted else quoted
      match splitParts quoted c rest with
      | part :: parts => (c :: part) :: parts
      | [] => [[c]]

/-- The name and the value of a part. Without an equals sign, all of it is the name. -/
def nameAndValue (part : List Char) : String × String :=
  let value := part.dropWhile (· != '=')
  let name := Text.strip (String.ofList (part.takeWhile (· != '=')))
  if value.isEmpty then (name, "")
  else (Text.lower name, Text.strip (String.ofList (value.drop 1)))

/-- A text in which two characters in a row are replaced by the second of them. -/
def dropBefore (first second : Char) : List Char → List Char
  | a :: b :: rest =>
    if a == first && b == second then second :: dropBefore first second rest
    else a :: dropBefore first second (b :: rest)
  | cs => cs

/-- What stands between the marks around a text, if they are there. -/
def between? (before after : Char) (cs : List Char) : Option (List Char) :=
  match cs with
  | first :: rest =>
    if first == before && rest.getLast? == some after then some rest.dropLast else none
  | [] => none

/-- A text without the quotes or angle brackets around it. -/
def unquote (s : String) : String :=
  match between? '"' '"' s.toList, between? '<' '>' s.toList with
  | some inner, _ => String.ofList (dropBefore '\\' '"' (dropBefore '\\' '\\' inner))
  | none, some inner => String.ofList inner
  | none, none => s

/-- A segment of a value; one that is the only one has no number. -/
structure Segment where
  number? : Option Nat
  text : String
  encoded : Bool
  deriving DecidableEq, Repr

def Segment.precedes (a b : Segment) : Bool :=
  let m := a.number?.getD 0
  let n := b.number?.getD 0
  m < n || (m == n && (a.text < b.text || (a.text == b.text && (!a.encoded || b.encoded))))

/-- A letter of the name of a segmented parameter. -/
def isWordChar (c : Char) : Bool := c.isAlphanum || c == '_'

/-- The name of the parameter that a segment belongs to, and the digits of its number. -/
def segmentName? (name : String) : Option (String × List Char) :=
  let cs := name.toList
  let word := cs.takeWhile isWordChar
  match word, cs.dropWhile isWordChar with
  | _ :: _, ['*'] => some (String.ofList word, [])
  | _ :: _, '*' :: rest =>
    let digits := rest.takeWhile Char.isDigit
    let ending := String.ofList (rest.dropWhile Char.isDigit)
    if !digits.isEmpty && (ending = "" || ending = "*") then some (String.ofList word, digits)
    else none
  | _, _ => none

def segmentNumber (digits : List Char) : Outcome (Option Nat) :=
  if digits.isEmpty then .ok none
  else if Number.digitLimit < digits.length then faulty .malformedValue
  else .ok (some (digits.foldl (fun n c => n * 10 + (c.toNat - '0'.toNat)) 0))

/-- Segments by parameter, in the order in which parameters first occur. -/
abbrev Segmented := List (String × List Segment)

def Segmented.add (name : String) (segment : Segment) : Segmented → Segmented
  | [] => [(name, [segment])]
  | (key, segments) :: rest =>
    if key == name then (key, segments ++ [segment]) :: rest
    else (key, segments) :: Segmented.add name segment rest

def octet? (high low : Char) : Option Char := do
  let digit? (c : Char) : Option Nat :=
    if c.toNat < 0x80 then Text.hexDigit? (UInt8.ofNat c.toNat) else none
  return Char.ofNat ((← digit? high) * 16 + (← digit? low))

/-- The octets of a text in which some are written as a percent sign and two digits. -/
def octetsOf : List Char → List Char
  | '%' :: high :: low :: rest =>
    match octet? high low with
    | some c => c :: octetsOf rest
    | none => '%' :: octetsOf (high :: low :: rest)
  | c :: rest => c :: octetsOf rest
  | [] => []

/-- The value of segments in order. A value with octets names its character set and its language
before the first two apostrophes. -/
def segmentsValue (segments : List Segment) : ParameterValue :=
  let value := segments.flatMap fun s =>
    if s.encoded then octetsOf s.text.toList else s.text.toList
  if segments.any (·.encoded) then
    match Text.splitAt '\'' value with
    | charset :: _ :: first :: rest =>
      .octets (String.ofList charset) (String.ofList (['\''].intercalate (first :: rest)))
    | _ => .octets "" (String.ofList value)
  else .text (String.ofList value)

/-- The parameter of some segments. Either all of them have numbers, or none has. -/
def segmentsParameter (name : String) (segments : List Segment) : Outcome Parameter :=
  let numbered := segments.any (·.number?.isSome)
  if numbered && segments.any (·.number?.isNone) then faulty .wrongKind
  else .ok ⟨name, segmentsValue (segments.mergeSort Segment.precedes)⟩

/-- The parameters of a header value; those in segments come last. -/
def parameters (header : String) : Outcome (List Parameter) := do
  let parts := (splitParts false ';' header.toList).map nameAndValue
  let plain (part : String × String) : Parameter := ⟨part.1, .text (unquote part.2)⟩
  -- the first part is never a segment
  let mut whole : List Parameter := (parts.take 1).map plain
  let mut segmented : Segmented := []
  for part in parts.drop 1 do
    match segmentName? part.1 with
    | none => whole := whole ++ [plain part]
    | some (name, digits) =>
      let number? ← segmentNumber digits
      segmented := segmented.add name ⟨number?, unquote part.2, part.1.endsWith "*"⟩
  let joined ← segmented.mapM fun (name, segments) => segmentsParameter name segments
  return whole ++ joined

/-- The character set with a name; no name holds the character zero. -/
def charsetNamed? (name : String) : Outcome (Option Text.Charset) :=
  if name.contains '\x00' then faulty .malformedValue else .ok (Text.Charset.ofName? name)

/-- The character set that octets are in where none is named. -/
def plainCharsetName : String := "us-ascii"

/-- The text of a value. Octets that cannot be read are taken as they are. -/
def ParameterValue.content : ParameterValue → Outcome String
  | .text value => .ok value
  | .octets charset value => do
    let charset? ← charsetNamed? (if charset.isEmpty then plainCharsetName else charset)
    let bytes := value.toList.map fun c => UInt8.ofNat c.toNat
    return match charset?.bind (·.readWhole? bytes) with
      | some numbers => String.ofList (Text.joinHalves numbers)
      | none => value

/-- The value of a parameter that is written in ASCII characters. -/
def parameter? (header name : String) : Outcome (Option String) := do
  match (← parameters header).find? fun p => Text.lower p.name == name with
  | none => return none
  | some p =>
    let value ← p.value.content
    return if value.all fun c => decide (c.toNat < 0x80) then some value else none

/-- The character set that a type of content tells, if it tells one that is known. -/
def charsetOfType? (type : String) : Outcome (Option Text.Charset) := do
  match ← parameter? type "charset" with
  | some name => charsetNamed? name
  | none => return none

end ServiceCli.Web
