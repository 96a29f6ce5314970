import ServiceCli.Shape.TypeTree

set_option autoImplicit false
set_option relaxedAutoImplicit false

namespace ServiceCli.Command

open ServiceCli.Shape

/-- How the text of a flag is read. A document is JSON that is sent as its text. -/
inductive Reading where
  | text
  | integer
  | float
  | boolean
  | file
  | json
  | document
  deriving DecidableEq, Repr

namespace Reading

/-- The name of a reading in generated source; plain text has none. -/
def name : Reading → String
  | .text => ""
  | .integer => "integer"
  | .float => "float"
  | .boolean => "boolean"
  | .file => "file"
  | .json => "json"
  | .document => "document"

def all : List Reading := [.text, .integer, .float, .boolean, .file, .json, .document]

def ofName? (name : String) : Option Reading := all.find? fun r => r.name == name

end Reading

/-- The primitive types whose values are whole numbers. -/
def integerKinds : List String := ["byte", "short", "integer", "long", "biginteger", "intenum"]

/-- The primitive types whose values are numbers with a fraction. -/
def floatKinds : List String := ["float", "double", "bigdecimal"]

def readingOfPrimitive (name : String) : Reading :=
  if integerKinds.contains name then .integer
  else if floatKinds.contains name then .float
  else if name = "boolean" then .boolean
  else .text

def readingOf : TypeTree → Reading
  | .primitive name => readingOfPrimitive name
  | .blob _ => .file
  | .document => .document
  | .structure _ => .json
  | .map _ _ => .json
  | .list _ => .json

end ServiceCli.Command
