import ServiceCli.Console.Table
import ServiceCli.Report.Printer
import ServiceCli.World

set_option autoImplicit false
set_option relaxedAutoImplicit false

namespace ServiceCli.Console

open ServiceCli.Data

/-- The format of tables and other data. -/
inductive Format where
  | json
  | plain
  | rich
  deriving DecidableEq, Repr

def Format.name : Format → String
  | .json => "json"
  | .plain => "plain"
  | .rich => "rich"

/-- The way the program speaks: the format of data, whether colours are turned off, whether less or
more is said, and what the terminal is like. -/
structure Manner where
  format : Format
  colorless : Bool
  quiet : Bool
  verbose : Bool
  width : Nat
  hasStyles : Bool
  depth : Depth
  deriving DecidableEq, Repr

/-- A kind of message. -/
inductive Kind where
  | info
  | success
  | warning
  | error
  | hint
  | debug
  deriving DecidableEq, Repr

def Kind.lead : Kind → String
  | .info => ""
  | .success => ""
  | .warning => "Warning: "
  | .error => "Error: "
  | .hint => "→ "
  | .debug => "[debug] "

/-- A message as markup. In most kinds the text of the message is no markup itself. -/
def Kind.markup (kind : Kind) (text : List Char) : List Char :=
  match kind with
  | .info => text
  | .success => "[green]".toList ++ text ++ "[/green]".toList
  | .warning => "[yellow]Warning:[/yellow] ".toList ++ escape text
  | .error => "[bold red]Error:[/bold red] ".toList ++ escape text
  | .hint => "[dim]→ ".toList ++ text ++ "[/dim]".toList
  | .debug => "[dim]\\[debug] ".toList ++ escape text ++ "[/dim]".toList

def usualWidth : Nat := 80

def widthOf (w : World) : Nat :=
  match w.lookup "COLUMNS" with
  | some text =>
    if !text.isEmpty && text.toList.all Char.isDigit then Number.digitsToNat text.toList
    else usualWidth
  | none => usualWidth

def plainTerminals : List String := ["dumb", "unknown"]

/-- Whether a run has a terminal that shows no styles. -/
def hasPlainTerminal (w : World) : Bool :=
  plainTerminals.contains (Text.lower ((w.lookup "TERM").getD ""))

/-- The names of kinds of terminals with numbered colours, after the last hyphen. -/
def numberedTerminals : List String := ["kitty", "256color"]

/-- The colours that the terminal of a run knows. -/
def depthOf (w : World) : Depth :=
  let said (name : String) : String := Text.lower (Text.strip ((w.lookup name).getD ""))
  if ["truecolor", "24bit"].contains (said "COLORTERM") then .full
  else if numberedTerminals.contains ((Text.split '-' (said "TERM")).getLastD "") then .numbered
  else .basic

namespace Manner

/-- The manner of a run. Standard streams are no terminals, so data is plain unless another format
is asked for. -/
def ofWorld (w : World) (format : Option Format) (colorless quiet verbose : Bool) : Manner where
  format := format.getD .plain
  colorless := colorless || (w.lookup "NO_COLOR").isSome || w.lookup "TERM" == some "dumb"
  quiet := quiet
  verbose := verbose
  width := widthOf w
  hasStyles := !hasPlainTerminal w
  depth := depthOf w

def isHeard (m : Manner) : Kind → Bool
  | .info => !m.quiet
  | .success => !m.quiet
  | .hint => !m.quiet
  | .warning => true
  | .error => true
  | .debug => m.verbose

def message (m : Manner) (kind : Kind) (text : String) : Outcome String :=
  if !m.isHeard kind then .ok ""
  else if m.colorless then .ok (kind.lead ++ text ++ "\n")
  else do
    let shown ← StyledText.ofMarkup (kind.markup text.toList)
    let _ ← ofStyle shown.styles
    return printed m.width shown.chars

def data (text : String) : String := text ++ "\n"

/-- A row of a table as a mapping from its headings. -/
def rowObject (headers row : List String) : Value :=
  .map (Entries.ofList (List.zipWith (fun h c => (.str h, .str c)) headers row))

def rowText (row : List String) : String := data ("\t".intercalate row)

/-- The width of tables; a terminal that shows no styles has the usual one. -/
def tableWidth (m : Manner) : Nat := if m.hasStyles then m.width else usualWidth

def palette (m : Manner) : Palette := ⟨m.hasStyles, !m.colorless, m.depth⟩

def table (m : Manner) (t : Table) : Outcome String :=
  match m.format with
  | .json => do return data (← Report.json (.list (t.rows.map (rowObject t.headers))))
  | .plain => .ok (String.join ((t.headers :: t.rows).map rowText))
  | .rich => do
    let lines ← t.lines m.palette m.tableWidth
    return String.ofList (lines.flatMap (· ++ ['\n']))

/-- A text without the line feeds at its end. -/
def withoutFinalBreaks (s : String) : String :=
  String.ofList ((s.toList.reverse.dropWhile (· == '\n')).reverse)

/-- What a file puts on standard output: its path and its content. -/
def file (path content : String) : String :=
  data ("# --- " ++ path ++ " ---") ++ data (withoutFinalBreaks content)

end Manner

end ServiceCli.Console
