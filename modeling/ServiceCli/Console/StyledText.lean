import ServiceCli.Console.Style

/-!
Text whose parts have styles. The parts may overlap; where they do, a later one is on top. While
text is laid out each character keeps the numbers of the parts it belongs to.
-/

set_option autoImplicit false
set_option relaxedAutoImplicit false

namespace ServiceCli.Console

/-- A part of a text, from a place up to another, and the text for its style. -/
structure Span where
  start : Nat
  stop : Nat
  style : String
  deriving DecidableEq, Repr

/-- A text and the parts of it that have styles. -/
structure StyledText where
  chars : List Char
  spans : List Span
  deriving DecidableEq, Repr

/-- A character with the numbers of the parts that it belongs to. In a line with tabs it has the
number of the tab that it follows as well, counted from one. -/
structure Ink where
  char : Char
  spans : List Nat
  stop : Nat
  deriving DecidableEq, Repr

def droppedCodes : List Nat := [7, 8, 11, 12, 13]

/-- A text without the characters that would move the cursor. -/
def withoutControls (cs : List Char) : List Char :=
  cs.filter fun c => !droppedCodes.contains c.toNat

def inkChars (inks : List Ink) : List Char := inks.map (·.char)

def plainInks (cs : List Char) : List Ink := cs.map fun c => ⟨c, [], 0⟩

namespace StyledText

def plain (cs : List Char) : StyledText := ⟨withoutControls cs, []⟩

def inks (t : StyledText) : List Ink :=
  t.chars.zipIdx.map fun (c, place) =>
    let spans := t.spans.zipIdx.filterMap fun (span, number) =>
      if span.start ≤ place && place < span.stop then some number else none
    ⟨c, spans, 0⟩

def styles (t : StyledText) : Except StyleProblem (List Style) :=
  t.spans.mapM fun span => Style.find span.style

end StyledText

/-- Whether two neighbours are shown together. A tab ends the parts of a text that reach beyond it,
which begin again after it; a `whole` text is a part of itself. -/
def Ink.joins (whole : Bool) (a b : Ink) : Bool :=
  a.spans == b.spans && (a.stop == b.stop || (a.spans.isEmpty && !whole))

/-- A line as a terminal is told to show it, with a style below those of its parts. Codes are set
anew where a part begins or ends. -/
def paintInks (p : Palette) (whole : Bool) (base : Style) (styles : List Style) (line : List Ink) :
    List Char :=
  (line.splitBy (Ink.joins whole)).flatMap fun run =>
    let spans := (run.head?.map (·.spans)).getD []
    let style := spans.foldl (fun style number => (styles.getD number .plain).above style) base
    style.paint p (inkChars run)

end ServiceCli.Console
