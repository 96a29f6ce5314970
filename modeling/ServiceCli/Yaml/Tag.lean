import ServiceCli.Data.Moment
import ServiceCli.Number.Numeral
import ServiceCli.Text.Split

set_option autoImplicit false
set_option relaxedAutoImplicit false

namespace ServiceCli.Yaml

open ServiceCli.Number

/-- A kind of node. -/
inductive Tag where
  | null
  | bool
  | int
  | float
  | timestamp
  | binary
  | text
  | sequence
  | mapping
  | set
  | orderedMapping
  | pairs
  | merge
  | default
  | foreign (name : String)
  deriving DecidableEq, Repr

def knownTags : String := "tag:yaml.org,2002:"

def tagNames : List (String × Tag) := [
  ("null", .null), ("bool", .bool), ("int", .int), ("float", .float), ("timestamp", .timestamp),
  ("binary", .binary), ("str", .text), ("seq", .sequence), ("map", .mapping), ("set", .set),
  ("omap", .orderedMapping), ("pairs", .pairs), ("merge", .merge), ("value", .default)]

def Tag.ofName (name : String) : Tag :=
  let known := tagNames.find? fun (n, _) => knownTags ++ n == name
  match known with
  | some (_, tag) => tag
  | none => .foreign name

/-- The words for truth values, in small letters. -/
def boolWords : List (String × Bool) :=
  [("yes", true), ("no", false), ("true", true), ("false", false), ("on", true), ("off", false)]

/-- A word in the three ways of writing it. -/
def spellings (word : String) : List String :=
  let cs := word.toList
  [word, String.ofList (cs.take 1 |>.map Char.toUpper) ++ String.ofList (cs.drop 1),
    String.ofList (cs.map Char.toUpper)]

def isBoolText (s : String) : Bool := boolWords.any fun (word, _) => (spellings word).contains s

def isNullText (s : String) : Bool := s == "" || s == "~" || (spellings "null").contains s

def isSpacedDigit (c : Char) : Bool := c.isDigit || c == '_'

def isDigits : List Char → Bool
  | d :: rest => d.isDigit && rest.all isSpacedDigit
  | [] => false

def isSome (cs : List Char) (inClass : Char → Bool) : Bool := !cs.isEmpty && cs.all inClass

def isSixtieth : List Char → Bool
  | [d] => d.isDigit
  | [t, d] => '0' ≤ t && t ≤ '5' && d.isDigit
  | _ => false

/-- Numbers between colons, all but the first below sixty. -/
def isSexagesimal (cs : List Char) : Bool :=
  match Text.splitAt ':' cs with
  | first :: part :: parts => isDigits first && (part :: parts).all isSixtieth
  | _ => false

def unsigned : List Char → List Char
  | '-' :: rest => rest
  | '+' :: rest => rest
  | cs => cs

/-- Whether a text is a whole number: binary, octal, decimal, hexadecimal or sexagesimal. -/
def isIntText (cs : List Char) : Bool :=
  match unsigned cs with
  | ['0'] => true
  | '0' :: 'b' :: rest => isSome rest fun c => c == '0' || c == '1' || c == '_'
  | '0' :: 'x' :: rest => isSome rest fun c => (digitValue? c).any (· < 16) || c == '_'
  | '0' :: rest => rest.all fun c => ('0' ≤ c && c ≤ '7') || c == '_'
  | body => isDigits body || isSexagesimal body

def isExponent : List Char → Bool
  | [] => true
  | e :: sign :: rest =>
    (e == 'e' || e == 'E') && (sign == '-' || sign == '+') && isSome rest Char.isDigit
  | _ => false

/-- A fraction without its point, and an exponent. -/
def isFraction (cs : List Char) : Bool := isExponent (cs.dropWhile isSpacedDigit)

def isPointed (cs : List Char) : Bool :=
  let whole := cs.takeWhile (· != '.')
  match cs.drop whole.length with
  | '.' :: rest =>
    (isDigits whole && isFraction rest) || (isSexagesimal whole && rest.all isSpacedDigit)
  | _ => false

def isBareFraction : List Char → Bool
  | '.' :: d :: rest => d.isDigit && isFraction rest
  | _ => false

/-- Whether a text is a number with a fraction, an infinity or not-a-number. -/
def isFloatText (cs : List Char) : Bool :=
  isPointed (unsigned cs) || isBareFraction cs
    || [".inf", ".Inf", ".INF"].contains (String.ofList (unsigned cs))
    || [".nan", ".NaN", ".NAN"].contains (String.ofList cs)

/-- The parts of a timestamp as they are written. -/
structure Stamp where
  date : Data.Date
  time : Option Data.TimeOfDay
  deriving Repr

/-- One or two digits, or exactly two, as a number, and what follows. -/
def takePair (atLeast : Nat) (cs : List Char) : Option (Nat × List Char) :=
  let ds := (cs.take 2).takeWhile Char.isDigit
  if ds.length < atLeast then none else some (digitsToNat ds, cs.drop ds.length)

def afterMark (mark : Char) : List Char → Option (List Char)
  | c :: rest => if c == mark then some rest else none
  | [] => none

/-- The millionths of a second in a fraction; further digits are cut off. -/
def microseconds (digits : List Char) : Nat :=
  let ds := digits.take 6
  digitsToNat (ds ++ List.replicate (6 - ds.length) '0')

/-- A distance from universal time: hours, and minutes after a colon. -/
def takeOffset (negative : Bool) (cs : List Char) : Option Int := do
  let (hours, rest) ← takePair 1 cs
  let (minutes, rest) ← match rest with
    | ':' :: rest => takePair 2 rest
    | _ => some (0, rest)
  let seconds : Int := hours * 3600 + minutes * 60
  if rest.isEmpty then some (if negative then -seconds else seconds) else none

/-- The end of a timestamp: the distance from universal time, when it is told. -/
def takeZone (cs : List Char) : Option (Option Int) :=
  match cs, cs.dropWhile fun c => c == ' ' || c == '\t' with
  | [], _ => some none
  | _, ['Z'] => some (some 0)
  | _, '+' :: rest => (takeOffset false rest).map some
  | _, '-' :: rest => (takeOffset true rest).map some
  | _, _ => none

def takeTime (cs : List Char) : Option Data.TimeOfDay := do
  let (hour, rest) ← takePair 1 cs
  let (minute, rest) ← takePair 2 (← afterMark ':' rest)
  let (second, rest) ← takePair 2 (← afterMark ':' rest)
  let (fraction, rest) := match rest with
    | '.' :: rest => (rest.takeWhile Char.isDigit, rest.dropWhile Char.isDigit)
    | _ => ([], rest)
  return ⟨hour, minute, second, microseconds fraction, ← takeZone rest⟩

/-- What separates a time from its date: a letter, or spaces and tabs. -/
def afterDate (cs : List Char) : Option (List Char) :=
  match cs with
  | 'T' :: rest => some rest
  | 't' :: rest => some rest
  | c :: rest =>
    if c == ' ' || c == '\t' then some (rest.dropWhile fun c => c == ' ' || c == '\t') else none
  | [] => none

/-- A timestamp: a date, which a time may follow. -/
def Stamp.ofList? (cs : List Char) : Option Stamp := do
  let year := (cs.take 4).takeWhile Char.isDigit
  if year.length != 4 then none
  let (month, rest) ← takePair 1 (← afterMark '-' (cs.drop 4))
  let (day, rest) ← takePair 1 (← afterMark '-' rest)
  let date : Data.Date := ⟨digitsToNat year, month, day⟩
  if rest.isEmpty then return ⟨date, none⟩
  else return ⟨date, some (← takeTime (← afterDate rest))⟩

/-- Whether a text is a timestamp: a date alone has two digits for the month and for the day. -/
def isStampText (cs : List Char) : Bool :=
  match Stamp.ofList? cs with
  | some stamp => stamp.time.isSome || cs.length == 10
  | none => false

def withoutFinalBreak (s : String) : String :=
  match s.toList.reverse with
  | '\n' :: c :: rest => String.ofList (c :: rest).reverse
  | _ => s

/-- The tag of a plain scalar that has none. -/
def Tag.ofPlain (text : String) : Tag :=
  let s := withoutFinalBreak text
  let cs := s.toList
  if isBoolText s then .bool
  else if isFloatText cs then .float
  else if isIntText cs then .int
  else if s == "<<" then .merge
  else if isNullText s then .null
  else if isStampText cs then .timestamp
  else if s == "=" then .default
  else if s == "!" || s == "&" || s == "*" then .foreign (knownTags ++ "yaml")
  else .text

end ServiceCli.Yaml
