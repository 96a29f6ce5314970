import ServiceCli.Failure
import ServiceCli.Path.FieldPath

/-!
Checking parameters against required paths. An element step is taken into every element of a list
and a value step into every value of a mapping; where an optional ancestor is absent, or is of
another kind, nothing is required. What is missing is reported by its concrete location.
-/

set_option autoImplicit false
set_option relaxedAutoImplicit false

namespace ServiceCli.Parameters

open ServiceCli.Data ServiceCli.Path

/-- The characters that separate the steps of a path. -/
def isMark (c : Char) : Bool :=
  c == '.' || c == '[' || c == ']' || c == '\x7b' || c == '\x7d'

def memberStep (name : List Char) : FieldPath :=
  if name.isEmpty then [] else [.member (String.ofList name)]

/-- The steps in a path's text; `name` holds the member name that was begun. -/
def stepsFrom (name : List Char) : List Char → FieldPath
  | [] => memberStep name
  | '[' :: ']' :: rest => memberStep name ++ .element :: stepsFrom [] rest
  | '\x7b' :: 'v' :: 'a' :: 'l' :: 'u' :: 'e' :: '\x7d' :: rest =>
    memberStep name ++ .value :: stepsFrom [] rest
  | c :: rest =>
    -- a mark that forms no step is skipped, and ends a name all the same
    if isMark c then memberStep name ++ stepsFrom [] rest else stepsFrom (name ++ [c]) rest

def parsePath (text : String) : FieldPath := stepsFrom [] text.toList

/-- One step to a concrete place in parameters. -/
inductive Spot where
  | member (name : String)
  | index (i : Nat)
  | key (text : String)
  deriving DecidableEq, Repr

/-- A place in parameters, outermost step first. -/
abbrev Location := List Spot

namespace Location

/-- A location's text with one more step after it. -/
def appendText (text : String) : Spot → String
  | .member name => if text.isEmpty then name else text ++ "." ++ name
  | .index i => text ++ "[" ++ toString i ++ "]"
  | .key k => text ++ "\x7b" ++ k ++ "\x7d"

def text (l : Location) : String := l.foldl appendText ""

end Location

/-- The locations below one that lack a value which a path requires. -/
def missingAt (location : Location) : FieldPath → Value → List Location
  | [], v => if v == .null then [location] else []
  | .element :: rest, .list items =>
    items.zipIdx.flatMap fun (v, i) => missingAt (location ++ [.index i]) rest v
  | .value :: rest, .map entries =>
    entries.flatMap fun (k, v) => missingAt (location ++ [.key (Literal.keyText k)]) rest v
  | .member name :: rest, .map entries =>
    missingAt (location ++ [.member name]) rest (Value.field entries name)
  | _ :: _, _ => []

/-- The locations that lack a value which one of the paths requires. -/
def missing (parameters : Value) (paths : List FieldPath) : List Location :=
  paths.flatMap fun path => missingAt [] path parameters

/-- Checks that parameters have every required value. A path without steps is a fault. -/
def validate (parameters : Value) (paths : List String) : Outcome Unit :=
  let paths := paths.map parsePath
  if paths.any List.isEmpty then faulty .absentIndex
  else match missing parameters paths with
    | [] => .ok ()
    | locations => .error (.parameter (.missingRequired (locations.map Location.text)))

end ServiceCli.Parameters
