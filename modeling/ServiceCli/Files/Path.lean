import ServiceCli.Text.LetterCase
import ServiceCli.Text.Split

set_option autoImplicit false
set_option relaxedAutoImplicit false

namespace ServiceCli.Files

/-- Where a path starts. A path that starts with exactly two separators keeps both. -/
inductive Anchor where
  | relative
  | root
  | doubleRoot
  deriving DecidableEq, Repr

def Anchor.text : Anchor → String
  | .relative => ""
  | .root => "/"
  | .doubleRoot => "//"

/-- A path. -/
structure Path where
  anchor : Anchor
  names : List String
  deriving DecidableEq, Repr

namespace Path

def anchorOf : List Char → Anchor
  | '/' :: '/' :: '/' :: _ => .root
  | '/' :: '/' :: _ => .doubleRoot
  | '/' :: _ => .root
  | _ => .relative

def isName (s : String) : Bool := s != "" && s != "."

def ofText (s : String) : Path := ⟨anchorOf s.toList, (Text.split '/' s).filter isName⟩

/-- The text of a path; the path without components is `.`. -/
def text (p : Path) : String :=
  let body := p.anchor.text ++ "/".intercalate p.names
  if body.isEmpty then "." else body

/-- A path seen from another; one that is not relative stands for itself. -/
def join (p q : Path) : Path :=
  match q.anchor with
  | .relative => { p with names := p.names ++ q.names }
  | _ => q

def name (p : Path) : String := p.names.getLast?.getD ""

def parent (p : Path) : Path := { p with names := p.names.dropLast }

/-- The characters after the last point of a name, with the point. A name has no suffix when the
point is its first or its last character. -/
def suffixOf (name : List Char) : List Char :=
  let tail := name.reverse.takeWhile (· != '.')
  let stem := (name.reverse.drop tail.length).drop 1
  if tail.isEmpty || stem.isEmpty then [] else '.' :: tail.reverse

/-- The suffix of a path's name in small letters. -/
def suffix (p : Path) : String := Text.lower (String.ofList (suffixOf p.name.toList))

/-- Whether no path can be named so, because the text holds a character that ends names. -/
def isUnnameable (p : Path) : Bool := p.names.any fun n => n.toList.contains (Char.ofNat 0)

end Path

end ServiceCli.Files
