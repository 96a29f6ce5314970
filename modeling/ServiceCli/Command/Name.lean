import ServiceCli.Failure
import ServiceCli.Text.Character
import ServiceCli.Text.LetterCase

set_option autoImplicit false
set_option relaxedAutoImplicit false

namespace ServiceCli.Command

open ServiceCli.Text

/-- The words of the generated language that cannot be identifiers. -/
def keywords : List String := [
  "False", "None", "True", "and", "as", "assert", "async", "await", "break", "class", "continue",
  "def", "del", "elif", "else", "except", "finally", "for", "from", "global", "if", "import", "in",
  "is", "lambda", "nonlocal", "not", "or", "pass", "raise", "return", "try", "while", "with",
  "yield"]

def isCapital (c : Char) : Bool := 'A' ≤ c && c ≤ 'Z'

def isSmall (c : Char) : Bool := 'a' ≤ c && c ≤ 'z'

def isAsciiDigit (c : Char) : Bool := '0' ≤ c && c ≤ '9'

/-- A capital after a small letter or a digit starts a new word. -/
def splitHumps : List Char → List Char
  | a :: b :: rest =>
    if (isSmall a || isAsciiDigit a) && isCapital b then a :: '_' :: splitHumps (b :: rest)
    else a :: splitHumps (b :: rest)
  | cs => cs

/-- The last of several capitals starts a new word when a small letter follows it. -/
def splitAcronyms : List Char → List Char
  | a :: b :: c :: rest =>
    if isCapital a && isCapital b && isSmall c then a :: '_' :: splitAcronyms (b :: c :: rest)
    else a :: splitAcronyms (b :: c :: rest)
  | cs => cs

/-- A character that an identifier may hold; any other becomes an underscore. -/
def identifierChar (c : Char) : Char :=
  if isSmall c || isCapital c || isAsciiDigit c then c else '_'

/-- One underscore in place of each run of them. -/
def squeeze : List Char → List Char
  | '_' :: '_' :: rest => squeeze ('_' :: rest)
  | c :: rest => c :: squeeze rest
  | [] => []

/-- The text without the underscores at its two ends. -/
def trimUnderscores (cs : List Char) : List Char :=
  ((cs.dropWhile (· == '_')).reverse.dropWhile (· == '_')).reverse

/-- The words of a name, in small letters and joined by underscores. -/
def snakeCase (cs : List Char) : List Char :=
  trimUnderscores (squeeze ((lowerFrom [] (splitAcronyms (splitHumps cs))).map identifierChar))

/-- An identifier in small letters: a name without letters becomes `param`, a digit in front gets
an underscore before it and a keyword one after it. -/
def identifierList (cs : List Char) : List Char :=
  let body := snakeCase cs
  let body := if body.isEmpty then "param".toList else body
  let body := match body with
    | c :: _ => if isAsciiDigit c then '_' :: body else body
    | [] => body
  if keywords.contains (String.ofList body) then body ++ ['_'] else body

def identifier (name : String) : String := String.ofList (identifierList name.toList)

/-- A text with every occurrence of a character replaced. -/
def replaceChar (a b : Char) (s : String) : String :=
  String.ofList (s.toList.map fun c => if c == a then b else c)

def isCommandChar (c : Char) : Bool := isSmall c || isAsciiDigit c || c == '_' || c == '-'

/-- A command name starts with a small letter and goes on with letters, digits, `_` and `-`. -/
def isCommandName (cs : List Char) : Bool :=
  match cs with
  | c :: rest => isSmall c && rest.all isCommandChar
  | [] => false

/-- A name in small letters, with dashes in place of blanks. -/
def dashed (name : String) : String := "-".intercalate (words (lower (strip name)))

/-- The command name that a given name stands for. -/
def commandName (name : String) : Outcome String :=
  let result := dashed name
  if isCommandName result.toList then .ok result
  else .error (.usage (.invalidCommandName name))

def defaultCommandName (service : String) : String := replaceChar '_' '-' (identifier service)

def packageName (command : String) : String := replaceChar '-' '_' command

end ServiceCli.Command
