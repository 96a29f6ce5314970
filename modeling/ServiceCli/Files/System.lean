import ServiceCli.Failure
import ServiceCli.Files.Path
import ServiceCli.Files.Tree

/-!
The file system as the operating system shows it: a tree, the place where relative paths start, and
the answers to questions and requests about paths. A path is followed name by name, so the first
component that cannot be followed decides which error is reported.
-/

set_option autoImplicit false
set_option relaxedAutoImplicit false

namespace ServiceCli.Files

/-- A file system. -/
structure System where
  tree : Tree
  current : Place
  deriving Repr

/-- The most bytes in the name of an entry. -/
def nameLimit : Nat := 255

/-- The most bytes in the text of a path. -/
def pathLimit : Nat := 4095

/-- Why a path cannot be used: it is no possible path, or the system refuses it. -/
inductive PathError where
  | unnameable
  | refused (cause : SystemError)
  deriving DecidableEq, Repr

def PathError.fault : PathError → Fault
  | .unnameable => .malformedValue
  | .refused cause => .system cause

def PathError.failure (e : PathError) : Failure := .fault e.fault

/-- An answer about a path. -/
abbrev Answer (α : Type) := Except PathError α

def refused {α : Type} (cause : SystemError) : Answer α := .error (.refused cause)

def upName : String := ".."

namespace System

def follow (tree : Tree) (place : Place) : List String → Answer Place
  | [] => .ok place
  | name :: rest =>
    match tree.get? place with
    | some (.directory entries) =>
      if name = upName then follow tree place.dropLast rest
      else if nameLimit < name.utf8ByteSize then refused .nameTooLong
      else match Tree.child? entries name with
        | some _ => follow tree (place ++ [name]) rest
        | none => refused .notFound
    | some (.file _) => refused .notDirectory
    | none => refused .notFound

def start (s : System) (p : Path) : Place :=
  match p.anchor with
  | .relative => s.current
  | _ => []

def accept (p : Path) : Answer Unit :=
  if p.isUnnameable then .error .unnameable
  else if pathLimit < p.text.utf8ByteSize then refused .nameTooLong
  else .ok ()

def locate (s : System) (p : Path) : Answer Place := do
  accept p
  follow s.tree (s.start p) p.names

def find (s : System) (p : Path) : Answer Tree := do
  let place ← s.locate p
  match s.tree.get? place with
  | some t => return t
  | none => refused .notFound

/-- A question about a path has the answer no where nothing is found. -/
def ask (answer : Answer Tree) (question : Tree → Bool) : Answer Bool :=
  match answer with
  | .ok t => .ok (question t)
  | .error .unnameable => .ok false
  | .error (.refused .notFound) => .ok false
  | .error (.refused .notDirectory) => .ok false
  | .error e => .error e

def isFile (s : System) (p : Path) : Answer Bool := ask (s.find p) Tree.isFile

def isDirectory (s : System) (p : Path) : Answer Bool := ask (s.find p) Tree.isDirectory

def readBytes (s : System) (p : Path) : Answer (List UInt8) := do
  match ← s.find p with
  | .file bytes => return bytes
  | .directory _ => refused .isDirectory

/-- The place of an entry that is to be made at a path: the place of the directory that will hold
it, and its name. `none` stands for a path that names what exists already. -/
def locateNew (s : System) (p : Path) : Answer (Option (Place × String)) := do
  accept p
  match p.names.getLast? with
  | none => return none
  | some name =>
    let place ← follow s.tree (s.start p) p.names.dropLast
    match s.tree.get? place with
    | some (.directory entries) =>
      if name = upName then return none
      else if nameLimit < name.utf8ByteSize then refused .nameTooLong
      else if (Tree.child? entries name).isSome then return none
      else return some (place, name)
    | some (.file _) => refused .notDirectory
    | none => refused .notFound

def makeDirectory (s : System) (p : Path) : Answer System := do
  match ← s.locateNew p with
  | some (place, name) => return { s with tree := s.tree.put (place ++ [name]) .empty }
  | none => refused .alreadyExists

/-- Makes one directory; an existing one is as good as a new one. -/
def ensureDirectory (s : System) (p : Path) : System × Answer Unit :=
  match s.makeDirectory p with
  | .ok s' => (s', .ok ())
  | .error .unnameable => (s, .error .unnameable)
  | .error (.refused .notFound) => (s, refused .notFound)
  | .error e =>
    match s.isDirectory p with
    | .ok true => (s, .ok ())
    | .ok false => (s, .error e)
    | .error e => (s, .error e)

/-- Makes the directory with the given names, last one first, and those above it where it cannot be
made without them. -/
def ensureNames (s : System) (anchor : Anchor) : List String → System × Answer Unit
  | [] => s.ensureDirectory ⟨anchor, []⟩
  | name :: above =>
    let p : Path := ⟨anchor, (name :: above).reverse⟩
    match s.ensureDirectory p with
    | (s, .error (.refused .notFound)) =>
      match s.ensureNames anchor above with
      | (s, .ok ()) => s.ensureDirectory p
      | failed => failed
    | done => done

/-- Makes a directory and those above it, where they do not exist. What was made before a failure
stays. -/
def ensureDirectories (s : System) (p : Path) : System × Answer Unit :=
  s.ensureNames p.anchor p.names.reverse

/-! ### Replacing a file

A file is written under a temporary name in the directory where it belongs, and takes its place in
one step. If it cannot, the temporary file is removed.
-/

/-- The number of bytes by which the name of a temporary file is longer than the name of the file
that it becomes. -/
def temporaryExtra : Nat := 14

/-- The name of a temporary file for a name, by the number of the attempt to find one. -/
def temporaryName (name : String) (attempt : Nat) : String :=
  let digits := toString attempt
  "." ++ name ++ "." ++ "".pushn '0' (8 - digits.length) ++ digits ++ ".tmp"

/-- The first temporary name from an attempt on that no entry has, when at most so many attempts
fail. -/
def freeTemporaryWithin (entries : List (String × Tree)) (name : String) : Nat → Nat → String
  | 0, attempt => temporaryName name attempt
  | fuel + 1, attempt =>
    if (Tree.child? entries (temporaryName name attempt)).isSome then
      freeTemporaryWithin entries name fuel (attempt + 1)
    else temporaryName name attempt

/-- A temporary name that no entry has; there are more candidates than entries. -/
def freeTemporary (entries : List (String × Tree)) (name : String) : String :=
  freeTemporaryWithin entries name entries.length 0

/-- Makes a temporary file beside the file that it is to become, and tells where. -/
def makeTemporary (s : System) (p : Path) (bytes : List UInt8) :
    Answer (System × Place × String) := do
  accept p
  let place ← s.locate p.parent
  if nameLimit < p.name.utf8ByteSize + temporaryExtra then refused .nameTooLong
  else if pathLimit < p.text.utf8ByteSize + temporaryExtra then refused .nameTooLong
  else match s.tree.get? place with
    | some (.directory entries) =>
      let temporary := freeTemporary entries p.name
      return ({ s with tree := s.tree.put (place ++ [temporary]) (.file bytes) }, place, temporary)
    | some (.file _) => refused .notDirectory
    | none => refused .notFound

def removeEntry (s : System) (place : Place) (name : String) : System :=
  { s with tree := s.tree.remove place name }

/-- Gives an entry of the directory at a place another name; a file that has this name is
replaced. -/
def renameEntry (s : System) (place : Place) (old new : String) : Answer System :=
  if new.isEmpty || new = upName then refused .busy
  else match s.tree.get? (place ++ [new]), s.tree.get? (place ++ [old]) with
    | some (.directory _), _ => refused .isDirectory
    | _, none => refused .notFound
    | _, some entry =>
      .ok { s with tree := (s.removeEntry place old).tree.put (place ++ [new]) entry }

/-- Puts a file at a path whose directory exists. -/
def replaceFile (s : System) (p : Path) (bytes : List UInt8) : System × Answer Unit :=
  match s.makeTemporary p bytes with
  | .error e => (s, .error e)
  | .ok (s, place, temporary) =>
    match s.renameEntry place temporary p.name with
    | .ok s => (s, .ok ())
    | .error e => (s.removeEntry place temporary, .error e)

def writeFile (s : System) (p : Path) (bytes : List UInt8) : System × Answer Unit :=
  match s.ensureDirectories p.parent with
  | (s, .ok ()) => s.replaceFile p bytes
  | failed => failed

end System

end ServiceCli.Files
