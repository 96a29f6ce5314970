set_option autoImplicit false
set_option relaxedAutoImplicit false

namespace ServiceCli.Text

/-- The parts of a text between the occurrences of a character; there is always at least one. -/
def splitAt (mark : Char) : List Char → List (List Char)
  | [] => [[]]
  | c :: rest =>
    if c = mark then [] :: splitAt mark rest
    else match splitAt mark rest with
      | part :: parts => (c :: part) :: parts
      | [] => [[c]]

/-- The parts of a text between the occurrences of a character. -/
def split (mark : Char) (s : String) : List String :=
  (splitAt mark s.toList).map String.ofList

def lines (s : String) : List String := split '\n' s

def joinLines (lines : List String) : String := "\n".intercalate lines

/-- A line and a column, both counted from one. -/
structure Place where
  line : Nat
  column : Nat
  deriving DecidableEq, Repr

/-- The place after some characters, when the place before them is known. -/
def Place.after (start : Place) (passed : List Char) : Place :=
  passed.foldl (fun p c => if c == '\n' then ⟨p.line + 1, 1⟩ else ⟨p.line, p.column + 1⟩) start

def placeOf (text : List Char) (index : Nat) : Place := Place.after ⟨1, 1⟩ (text.take index)

end ServiceCli.Text
