set_option autoImplicit false
set_option relaxedAutoImplicit false

/-!
Directory trees. A directory lists its entries under their names; the place of an entry is the list
of names that leads to it from the top.
-/

namespace ServiceCli.Files

/-- A file with its bytes, or a directory. -/
inductive Tree where
  | file (bytes : List UInt8)
  | directory (entries : List (String × Tree))
  deriving Repr, BEq, Inhabited

/-- The place of an entry: the names from the top to it. -/
abbrev Place := List String

namespace Tree

def empty : Tree := .directory []

def isFile : Tree → Bool
  | .file _ => true
  | .directory _ => false

def isDirectory : Tree → Bool
  | .file _ => false
  | .directory _ => true

def child? (entries : List (String × Tree)) (name : String) : Option Tree :=
  match entries with
  | [] => none
  | (n, t) :: rest => if n = name then some t else child? rest name

/-- The entries with one put under a name, in the place of the old one if there is one. -/
def putChild (entries : List (String × Tree)) (name : String) (t : Tree) : List (String × Tree) :=
  match entries with
  | [] => [(name, t)]
  | (n, u) :: rest => if n = name then (n, t) :: rest else (n, u) :: putChild rest name t

def removeChild (entries : List (String × Tree)) (name : String) : List (String × Tree) :=
  match entries with
  | [] => []
  | (n, t) :: rest => if n = name then rest else (n, t) :: removeChild rest name

def get? : Tree → Place → Option Tree
  | t, [] => some t
  | .file _, _ :: _ => none
  | .directory entries, name :: place =>
    match child? entries name with
    | some t => t.get? place
    | none => none

/-- A tree with another put at a place; the directories on the way are made where there are none,
and a file on the way keeps everything as it is. -/
def put : Tree → Place → Tree → Tree
  | _, [], new => new
  | .file bytes, _ :: _, _ => .file bytes
  | .directory entries, name :: place, new =>
    .directory (putChild entries name (put ((child? entries name).getD empty) place new))

def remove : Tree → Place → String → Tree
  | .file bytes, _, _ => .file bytes
  | .directory entries, [], name => .directory (removeChild entries name)
  | .directory entries, first :: place, name =>
    match child? entries first with
    | some t => .directory (putChild entries first (t.remove place name))
    | none => .directory entries

end Tree

end ServiceCli.Files
