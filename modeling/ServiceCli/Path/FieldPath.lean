set_option autoImplicit false
set_option relaxedAutoImplicit false

/-!
Field paths: where a value lies in a tree of parameters, in the form that people read. A member is
written by its name, every element of a list by `[]`, every value of a map by `{value}`; a point
stands before a member that is not first.
-/

namespace ServiceCli.Path

/-- The text of the step into every element of a list. -/
def elementText : String := "[]"

/-- The text of the step into every value of a map. -/
def valueText : String := "\x7bvalue\x7d"

/-- One step of a field path. -/
inductive Segment where
  | member (name : String)
  | element
  | value
  deriving DecidableEq, Repr

def Segment.text : Segment → String
  | .member name => name
  | .element => elementText
  | .value => valueText

/-- A field path, outermost step first. -/
abbrev FieldPath := List Segment

namespace FieldPath

def member (p : FieldPath) (name : String) : FieldPath := p ++ [.member name]

def element (p : FieldPath) : FieldPath := p ++ [.element]

def value (p : FieldPath) : FieldPath := p ++ [.value]

/-- A path's text with the text of one more step after it. -/
def appendText (text segment : String) : String :=
  if segment = elementText || segment = valueText then text ++ segment
  else if text.isEmpty then segment
  else text ++ "." ++ segment

def text (p : FieldPath) : String := p.foldl (fun t s => appendText t s.text) ""

end FieldPath

end ServiceCli.Path
