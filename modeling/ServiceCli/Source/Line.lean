import ServiceCli.Literal.Quoted

set_option autoImplicit false
set_option relaxedAutoImplicit false

namespace ServiceCli.Source

/-- A piece of a line. -/
inductive Piece where
  | code (text : String)
  | quoted (text : String)
  deriving DecidableEq, Repr

def Piece.text : Piece → String
  | .code s => s
  | .quoted s => Literal.quote s

abbrev Line := List Piece

def codeLine (s : String) : Line := [.code s]

def codeLines (lines : List String) : List Line := lines.map codeLine

namespace Line

def text (l : Line) : String := String.join (l.map Piece.text)

/-- A line four spaces further in for each level. -/
def indented (levels : Nat) (l : Line) : Line := .code ("".pushn ' ' (4 * levels)) :: l

end Line

def quotedList (texts : List String) : Line :=
  .code "[" :: (List.intersperse (.code ", ") (texts.map .quoted)) ++ [.code "]"]

def textOf (lines : List Line) : String := String.join (lines.map fun l => l.text ++ "\n")

end ServiceCli.Source
