import ServiceCli.Console.Color
import ServiceCli.Text.Character

set_option autoImplicit false
set_option relaxedAutoImplicit false

namespace ServiceCli.Console

/-- An attribute of text. -/
inductive Attribute where
  | bold
  | dim
  | italic
  | underline
  | blink
  | fastBlink
  | reverse
  | conceal
  | strike
  | doubleUnderline
  | frame
  | encircle
  | overline
  deriving DecidableEq, Repr

namespace Attribute

def all : List Attribute := [
  .bold, .dim, .italic, .underline, .blink, .fastBlink, .reverse, .conceal, .strike,
  .doubleUnderline, .frame, .encircle, .overline]

def name : Attribute → String
  | .bold => "bold"
  | .dim => "dim"
  | .italic => "italic"
  | .underline => "underline"
  | .blink => "blink"
  | .fastBlink => "blink2"
  | .reverse => "reverse"
  | .conceal => "conceal"
  | .strike => "strike"
  | .doubleUnderline => "underline2"
  | .frame => "frame"
  | .encircle => "encircle"
  | .overline => "overline"

def shortNames : List (String × Attribute) := [
  ("b", .bold), ("d", .dim), ("i", .italic), ("u", .underline), ("uu", .doubleUnderline),
  ("r", .reverse), ("s", .strike), ("c", .conceal), ("o", .overline)]

def ofWord? (word : String) : Option Attribute :=
  (shortNames.lookup word).or (all.find? fun a => a.name == word)

def code : Attribute → Nat
  | .bold => 1
  | .dim => 2
  | .italic => 3
  | .underline => 4
  | .blink => 5
  | .fastBlink => 6
  | .reverse => 7
  | .conceal => 8
  | .strike => 9
  | .doubleUnderline => 21
  | .frame => 51
  | .encircle => 52
  | .overline => 53

end Attribute

/-- A style; what was set first comes last. -/
structure Style where
  attributes : List (Attribute × Bool)
  color : Option Color
  ground : Option Color
  link : Option String
  deriving DecidableEq, Repr

namespace Style

def plain : Style := ⟨[], none, none, none⟩

def addWords (style : Style) : List String → Except StyleProblem Style
  | [] => .ok style
  | word :: rest =>
    match Text.lower word, rest with
    | "on", ground :: rest => do
      addWords { style with ground := some (← Color.ofWord ground) } rest
    | "not", negated :: rest =>
      match Attribute.ofWord? negated with
      | some a => addWords { style with attributes := (a, false) :: style.attributes } rest
      | none => .error .form
    | "link", link :: rest => addWords { style with link := some link } rest
    | "on", [] => .error .form
    | "not", [] => .error .form
    | "link", [] => .error .form
    | word, rest =>
      match Attribute.ofWord? word with
      | some a => addWords { style with attributes := (a, true) :: style.attributes } rest
      | none => do addWords { style with color := some (← Color.ofWord word) } rest

def read (text : String) : Except StyleProblem Style :=
  if Text.strip text = "none" then .ok plain else plain.addWords (Text.words text)

def words (s : Style) : List String :=
  let attributes := Attribute.all.filterMap fun a =>
    (s.attributes.lookup a).map fun isOn => if isOn then a.name else "not " ++ a.name
  attributes ++ (s.color.elim [] fun c => [c.name])
    ++ (s.ground.elim [] fun c => ["on", c.name]) ++ (s.link.elim [] fun link => ["link", link])

def text (s : Style) : String := if s.words.isEmpty then "none" else " ".intercalate s.words

def above (top bottom : Style) : Style where
  attributes := top.attributes ++ bottom.attributes
  color := top.color.or bottom.color
  ground := top.ground.or bottom.ground
  link := top.link.or bottom.link

def named : List (String × String) := [
  ("reset", "not bold not dim not italic not underline not blink not blink2 not reverse "
    ++ "not conceal not strike default on default"),
  ("bright", "not dim"), ("strong", "bold"), ("code", "bold reverse"), ("emphasize", "italic"),
  ("inspect.attr", "italic yellow"), ("inspect.attr.dunder", "dim italic yellow"),
  ("inspect.callable", "bold red"), ("inspect.async_def", "italic bright_cyan"),
  ("inspect.def", "italic bright_cyan"), ("inspect.class", "italic bright_cyan"),
  ("inspect.error", "bold red"), ("inspect.help", "cyan"), ("inspect.doc", "dim"),
  ("inspect.value.border", "green"), ("live.ellipsis", "bold red"),
  ("layout.tree.row", "not dim red"), ("layout.tree.column", "not dim blue"),
  ("logging.keyword", "bold yellow"), ("logging.level.notset", "dim"),
  ("logging.level.debug", "green"), ("logging.level.info", "blue"),
  ("logging.level.warning", "red"), ("logging.level.error", "bold red"),
  ("logging.level.critical", "bold reverse red"), ("log.time", "dim cyan"), ("log.path", "dim"),
  ("repr.ellipsis", "yellow"), ("repr.indent", "dim green"), ("repr.error", "bold red"),
  ("repr.str", "not bold not italic green"), ("repr.brace", "bold"), ("repr.comma", "bold"),
  ("repr.ipv4", "bold bright_green"), ("repr.ipv6", "bold bright_green"),
  ("repr.eui48", "bold bright_green"), ("repr.eui64", "bold bright_green"),
  ("repr.tag_start", "bold"), ("repr.tag_name", "bold bright_magenta"),
  ("repr.tag_contents", "default"), ("repr.tag_end", "bold"),
  ("repr.attrib_name", "not italic yellow"), ("repr.attrib_equal", "bold"),
  ("repr.attrib_value", "not italic magenta"), ("repr.number", "bold not italic cyan"),
  ("repr.number_complex", "bold not italic cyan"), ("repr.bool_true", "italic bright_green"),
  ("repr.bool_false", "italic bright_red"), ("repr.none", "italic magenta"),
  ("repr.url", "not bold not italic underline bright_blue"),
  ("repr.uuid", "not bold bright_yellow"), ("repr.call", "bold magenta"), ("repr.path", "magenta"),
  ("repr.filename", "bright_magenta"), ("rule.line", "bright_green"), ("json.brace", "bold"),
  ("json.bool_true", "italic bright_green"), ("json.bool_false", "italic bright_red"),
  ("json.null", "italic magenta"), ("json.number", "bold not italic cyan"),
  ("json.str", "not bold not italic green"), ("json.key", "bold blue"),
  ("prompt.choices", "bold magenta"), ("prompt.default", "bold cyan"), ("prompt.invalid", "red"),
  ("prompt.invalid.choice", "red"), ("scope.border", "blue"), ("scope.key", "italic yellow"),
  ("scope.key.special", "dim italic yellow"), ("scope.equals", "red"), ("table.header", "bold"),
  ("table.footer", "bold"), ("table.title", "italic"), ("table.caption", "dim italic"),
  ("traceback.error", "italic red"), ("traceback.border.syntax_error", "bright_red"),
  ("traceback.border", "red"), ("traceback.title", "bold red"),
  ("traceback.exc_type", "bold bright_red"), ("traceback.offset", "bold bright_red"),
  ("bar.back", "grey23"), ("bar.complete", "rgb(249,38,114)"), ("bar.finished", "rgb(114,156,31)"),
  ("bar.pulse", "rgb(249,38,114)"), ("progress.filesize", "green"),
  ("progress.filesize.total", "green"), ("progress.download", "green"),
  ("progress.elapsed", "yellow"), ("progress.percentage", "magenta"),
  ("progress.remaining", "cyan"), ("progress.data.speed", "red"), ("progress.spinner", "green"),
  ("status.spinner", "green"), ("markdown.em", "italic"), ("markdown.emph", "italic"),
  ("markdown.strong", "bold"), ("markdown.code", "bold cyan on black"),
  ("markdown.code_block", "cyan on black"), ("markdown.block_quote", "magenta"),
  ("markdown.list", "cyan"), ("markdown.item.bullet", "bold yellow"),
  ("markdown.item.number", "bold yellow"), ("markdown.hr", "yellow"), ("markdown.h1", "bold"),
  ("markdown.h2", "bold underline"), ("markdown.h3", "bold"), ("markdown.h4", "bold dim"),
  ("markdown.h5", "underline"), ("markdown.h6", "italic"), ("markdown.h7", "dim italic"),
  ("markdown.link", "bright_blue"), ("markdown.link_url", "underline blue"),
  ("markdown.s", "strike"), ("iso8601.date", "blue"), ("iso8601.time", "magenta"),
  ("iso8601.timezone", "yellow")]

/-- The style that a name or words give. What is neither leaves all as it is. -/
def find (text : String) : Except StyleProblem Style :=
  match read ((named.lookup text).getD text) with
  | .error .form => .ok plain
  | result => result

/-- The form of a text for a style that all texts for the same style have in common; another text
counts in small letters. -/
def normalize (text : String) : Except StyleProblem String :=
  match read text with
  | .ok s => .ok s.text
  | .error .form => .ok (Text.lower (Text.strip text))
  | .error .number => .error .number

end Style

/-- What a terminal shows of styles. -/
structure Palette where
  styles : Bool
  colors : Bool
  depth : Depth
  deriving DecidableEq, Repr

def Style.codes (p : Palette) (s : Style) : List Nat :=
  let attributes := Attribute.all.filterMap fun a =>
    if s.attributes.lookup a = some true then some a.code else none
  let color (base : Nat) (c : Option Color) : List Nat :=
    c.elim [] fun c => (c.hue.atDepth p.depth).codes base
  attributes ++ if p.colors then color 30 s.color ++ color 40 s.ground else []

/-- A text between the codes that set a style and end it. -/
def Style.paint (p : Palette) (s : Style) (cs : List Char) : List Char :=
  let codes := s.codes p
  if p.styles && !cs.isEmpty && !codes.isEmpty then
    ("\x1b[" ++ ";".intercalate (codes.map toString) ++ "m").toList ++ cs ++ "\x1b[0m".toList
  else cs

end ServiceCli.Console
