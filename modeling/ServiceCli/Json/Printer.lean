import ServiceCli.Json.Quoted
import ServiceCli.Literal.Value

set_option autoImplicit false
set_option relaxedAutoImplicit false

namespace ServiceCli.Json

open ServiceCli.Data ServiceCli.Number ServiceCli.Literal

/-- How JSON is laid out. With `anyValue` a value that JSON does not know is written as the string
of its plain text, otherwise it is refused. -/
structure Form where
  indent : Option Nat
  asciiOnly : Bool
  anyValue : Bool

/-- One line, ASCII, JSON values only: the form in which documents are sent. -/
def compact : Form := ⟨none, true, false⟩

/-- The text of a number, which may be an infinity or not-a-number. -/
def floatText (x : Binary64) : String := x.textIn plainUpToSixteen "Infinity" "NaN"

def printScalar (form : Form) : Scalar → Option (List Char)
  | .null => some "null".toList
  | .bool b => some (if b then "true" else "false").toList
  | .int i => some (toString i).toList
  | .float x => some (floatText x).toList
  | .str s => some (quoteWith form.asciiOnly s.toList)
  | a => if form.anyValue then some (quoteWith form.asciiOnly (scalarText a).toList) else none

/-- A key: a text, or the text of another indivisible value. -/
def printKey (form : Form) : Key → Option (List Char)
  | .atom (.str s) => some (quoteWith form.asciiOnly s.toList)
  | .atom .null => some (quoteWith form.asciiOnly "null".toList)
  | .atom (.bool b) => some (quoteWith form.asciiOnly (if b then "true" else "false").toList)
  | .atom (.int i) => some (quoteWith form.asciiOnly (toString i).toList)
  | .atom (.float x) => some (quoteWith form.asciiOnly (floatText x).toList)
  | _ => none

/-- The break before an item at a depth of nesting: nothing, or a new line and its indent. -/
def breakAt (form : Form) (depth : Nat) : List Char :=
  match form.indent with
  | none => []
  | some n => '\n' :: List.replicate (n * depth) ' '

def separator (form : Form) (depth : Nat) : List Char :=
  match form.indent with
  | none => [',', ' ']
  | some _ => ',' :: breakAt form depth

/-- Items between brackets; empty brackets stay together. -/
def bracket (form : Form) (depth : Nat) (opening closing : Char) (items : List (List Char)) :
    List Char :=
  if items.isEmpty then [opening, closing]
  else opening :: breakAt form (depth + 1) ++ (separator form (depth + 1)).intercalate items
    ++ breakAt form depth ++ [closing]

mutual
def printValue (form : Form) (depth : Nat) : Value → Option (List Char)
  | .atom a => printScalar form a
  | .list vs => (printItems form (depth + 1) vs).map (bracket form depth '[' ']')
  | .tuple vs => (printItems form (depth + 1) vs).map (bracket form depth '[' ']')
  | .map es => (printMembers form (depth + 1) es).map (bracket form depth '\x7b' '\x7d')
  | v => if form.anyValue then some (quoteWith form.asciiOnly (text v).toList) else none
def printItems (form : Form) (depth : Nat) : List Value → Option (List (List Char))
  | [] => some []
  | v :: vs => do
    let head ← printValue form depth v
    let tail ← printItems form depth vs
    return head :: tail
def printMembers (form : Form) (depth : Nat) : List (Key × Value) → Option (List (List Char))
  | [] => some []
  | (k, v) :: es => do
    let key ← printKey form k
    let value ← printValue form depth v
    let tail ← printMembers form depth es
    return (key ++ [':', ' '] ++ value) :: tail
end

/-- The JSON text of a value in a form, when the form admits the value. -/
def print? (form : Form) (v : Value) : Option String :=
  (printValue form 0 v).map String.ofList

end ServiceCli.Json
