import ServiceCli.Console.Wrap

set_option autoImplicit false
set_option relaxedAutoImplicit false

namespace ServiceCli.Console

def panelTop (width : Nat) (title : String) : List Char :=
  let heading := cut (width - 4) (' ' :: title.toList ++ [' '])
  let edge :=
    -- no room for a title
    if width ≤ 4 then List.replicate (width - 2) '─'
    else '─' :: heading ++ List.replicate (width - 3 - cells heading) '─'
  '╭' :: edge ++ ['╮']

def panelBottom (width : Nat) : List Char := '╰' :: List.replicate (width - 2) '─' ++ ['╯']

/-- A text in a panel on a console of a width, with the end of its last line. -/
def panel (width : Nat) (title text : String) : String :=
  let body := (wrap ⟨width - 4, .fold, .left⟩ text.toList).map fun line =>
    "│ ".toList ++ line ++ fill (width - 4) line ++ " │".toList
  String.ofList ((panelTop width title :: body ++ [panelBottom width]).flatMap (· ++ ['\n']))

/-- How much a line of a log matters. -/
inductive Level where
  | debug
  | info
  deriving DecidableEq, Repr

def Level.name : Level → String
  | .debug => "DEBUG"
  | .info => "INFO"

def levelColumn : Nat := 9

def trimSpaces (line : List Char) : List Char := (line.reverse.dropWhile (· == ' ')).reverse

/-- The texts of the column of levels: the level beside the first line of the message, and spaces
beside the others. -/
def levelCells (level : Level) : List (List Char) → List (List Char)
  | [] => []
  | first :: rest =>
    (level.name.toList ++ fill levelColumn level.name.toList ++ first)
      :: rest.map (List.replicate levelColumn ' ' ++ ·)

/-- A message as lines of a log on a console of a width, with the end of the last line. -/
def logged (width : Nat) (level : Level) (message : String) : String :=
  let lines := wrap ⟨width - levelColumn, .fold, .none⟩ message.toList
  String.ofList ((levelCells level lines).flatMap fun line => trimSpaces line ++ ['\n'])

end ServiceCli.Console
