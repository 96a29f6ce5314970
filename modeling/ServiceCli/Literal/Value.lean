import ServiceCli.Data.Value
import ServiceCli.Literal.Quoted

set_option autoImplicit false
set_option relaxedAutoImplicit false

namespace ServiceCli.Literal

open ServiceCli.Data

def boolText (b : Bool) : String := if b then "True" else "False"

def ofScalar : Scalar → String
  | .null => "None"
  | .bool b => boolText b
  | .int i => toString i
  | .float x => x.text
  | .str s => quote s
  | .bytes bs => quoteBytes bs
  | .moment m => m.literal

def joined (items : List String) : String := ", ".intercalate items

/-- A tuple of one member has a comma after it. -/
def tupleText : List String → String
  | [one] => "(" ++ one ++ ",)"
  | items => "(" ++ joined items ++ ")"

mutual
def ofKey : Key → String
  | .atom a => ofScalar a
  | .tuple ks => tupleText (ofKeys ks)
  | .opaqueText t _ => t
/-- The literals of the members of a tuple. -/
def ofKeys : List Key → List String
  | [] => []
  | k :: ks => ofKey k :: ofKeys ks
end

def setText (items : List String) : String :=
  if items.isEmpty then "set()" else "\x7b" ++ joined items ++ "\x7d"

mutual
def ofValue : Value → String
  | .atom a => ofScalar a
  | .list vs => "[" ++ joined (ofValues vs) ++ "]"
  | .tuple vs => tupleText (ofValues vs)
  | .set ks => setText (ofKeys ks)
  | .map es => "\x7b" ++ joined (ofEntries es) ++ "\x7d"
  | .stream path _ _ => "<_io.BufferedReader name=" ++ quote path ++ ">"
  | .record fields => "\x7b" ++ joined (ofFields fields) ++ "\x7d"
  | .report v => ofValue v
  | .account _ content => ofValue content
  | .opaqueText t _ => t
def ofValues : List Value → List String
  | [] => []
  | v :: vs => ofValue v :: ofValues vs
def ofEntries : List (Key × Value) → List String
  | [] => []
  | (k, v) :: es => (ofKey k ++ ": " ++ ofValue v) :: ofEntries es
def ofFields : List (String × Value) → List String
  | [] => []
  | (k, v) :: fs => (quote k ++ ": " ++ ofValue v) :: ofFields fs
end

/-- The literal of a value in generated source, where a tuple is written as a list. -/
def source : Value → String
  | .tuple vs => ofValue (.list vs)
  | v => ofValue v

def scalarText : Scalar → String
  | .str s => s
  | .moment m => m.textWith " "
  | a => ofScalar a

def text : Value → String
  | .atom a => scalarText a
  | v => ofValue v

def keyText : Key → String
  | .atom a => scalarText a
  | k => ofKey k

end ServiceCli.Literal
