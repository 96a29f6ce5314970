import ServiceCli.Console.Glyph
import ServiceCli.Console.StyledText
import ServiceCli.Text.Character
import ServiceCli.Text.Split

/-!
Wrapping text to a number of cells. Lines are broken between words; a word that fits no line is
folded or cut. Tabs reach to the next multiple of eight, and control characters that would move the
cursor are dropped. What is put into a line has no style, but for the spaces of a tab.
-/

set_option autoImplicit false
set_option relaxedAutoImplicit false

namespace ServiceCli.Console

/-- What becomes of a word that fits no line. -/
inductive Overflow where
  | fold
  | ellipsis
  deriving DecidableEq, Repr

/-- Where a line stands in its width. Without alignment nothing is added to it. -/
inductive Alignment where
  | none
  | left
  | center
  deriving DecidableEq, Repr

/-- How text is laid out. -/
structure Layout where
  width : Nat
  overflow : Overflow
  alignment : Alignment

/-- The distance between two stops of the tabulator. -/
def tabSize : Nat := 8

/-- A line with spaces for tabs; `column` is the number of cells before `part`, which are the
characters since the last tab, and `stop` the number that they have. -/
def expandTabs (stop column : Nat) (part : List Char) : List Ink → List Ink
  | [] => []
  | ink :: rest =>
    if ink.char = '\t' then
      let column := column + cells (part ++ [' '])
      let missing := (tabSize - column % tabSize) % tabSize
      List.replicate (missing + 1) { ink with char := ' ', stop := stop }
        ++ expandTabs (stop + 1) (column + missing) [] rest
    else { ink with stop := stop } :: expandTabs stop column (part ++ [ink.char]) rest

def Ink.isBlank (ink : Ink) : Bool := Text.isBlank ink.char

/-- A word and the blanks after it. -/
structure Word where
  text : List Ink
  blanks : List Ink

def Word.all (w : Word) : List Ink := w.text ++ w.blanks

/-- The words of a text that begins with none of its blanks; `fuel` bounds their number. -/
def wordsFrom : Nat → List Ink → List Word
  | 0, _ => []
  | fuel + 1, inks =>
    let text := inks.takeWhile fun ink => !ink.isBlank
    let rest := inks.drop text.length
    let blanks := rest.takeWhile Ink.isBlank
    if text.isEmpty then []
    else ⟨text, blanks⟩ :: wordsFrom fuel (rest.drop blanks.length)

/-- The words of a text; the first one has the blanks before it as well. A text of blanks has no
word. -/
def wordsOf (inks : List Ink) : List Word :=
  let lead := inks.takeWhile Ink.isBlank
  match wordsFrom inks.length (inks.drop lead.length) with
  | [] => []
  | w :: rest => { w with text := lead ++ w.text } :: rest

/-- Inks cut into parts of some lengths. -/
def cutAt : List Nat → List Ink → List (List Ink)
  | [], _ => []
  | n :: lengths, inks => inks.take n :: cutAt lengths (inks.drop n)

/-- Inks cut into parts of at most a width, from the left. -/
def foldInks (width : Nat) (inks : List Ink) : List (List Ink) :=
  cutAt ((foldGlyphs width 0 [] (glyphs (inkChars inks))).map List.length) inks

/-- Lines while they are made: those that are done, last one first, and the current one with the
cells that count as used in it. -/
structure Lines where
  done : List (List Ink)
  current : List Ink
  used : Nat

namespace Lines

def isFresh (l : Lines) : Bool := l.done.isEmpty && l.current.isEmpty

/-- Ends the current line, unless nothing was set yet. -/
def breakLine (l : Lines) : Lines := if l.isFresh then l else ⟨l.current :: l.done, [], 0⟩

def add (l : Lines) (inks : List Ink) (used : Nat) : Lines :=
  { l with current := l.current ++ inks, used }

def addWord (width : Nat) (overflow : Overflow) (l : Lines) (word : Word) : Lines :=
  let size := cells (inkChars word.text)
  let sizeOfAll := cells (inkChars word.all)
  if l.used + size ≤ width then l.add word.all (l.used + sizeOfAll)
  else if width < size then
    match overflow with
    | .fold => 
      (foldInks width word.all).foldl
        (fun l part => l.breakLine.add part (cells (inkChars part))) l
    | .ellipsis => l.breakLine.add word.all sizeOfAll
  else if l.used != 0 then l.breakLine.add word.all sizeOfAll
  else l.add word.all l.used

def toList (l : Lines) : List (List Ink) := (l.current :: l.done).reverse

end Lines

/-- A line without the blanks at its end that reach beyond a width. -/
def trimEnd (width : Nat) (line : List Ink) : List Ink :=
  let blanks := (line.reverse.takeWhile Ink.isBlank).length
  line.take (line.length - min blanks (line.length - width))

def cut (width : Nat) (line : List Char) : List Char :=
  if width = 0 then [] else cutGlyphs width (glyphs line)

def cutLine (s : Layout) (line : List Ink) : List Ink :=
  let chars := inkChars line
  if cells chars ≤ s.width then line
  else
    let shown := match s.overflow with
      | .fold => cut s.width chars
      | .ellipsis => cut (s.width - 1) chars ++ ['…']
    -- what stands for the rest has the style of the character at its place
    List.zipWith (fun ink c => { ink with char := c }) line shown

/-- Spaces up to a width. A joiner at the end of the line takes the first of them, so that a line
may want one more after it was filled. -/
def fill (width : Nat) (line : List Char) : List Char :=
  List.replicate (width - cells line) ' '

def fillInks (width : Nat) (line : List Ink) : List Ink :=
  line ++ plainInks (fill width (inkChars line))

def align (s : Layout) (line : List Ink) : List Ink :=
  match s.alignment with
  | .none => line
  | .left => fillInks s.width line
  | .center =>
    let bare := (line.reverse.dropWhile Ink.isBlank).reverse
    let indent := (s.width - cells (inkChars bare)) / 2
    fillInks s.width (plainInks (List.replicate indent ' ') ++ bare)

def wrapLine (s : Layout) (line : List Ink) : List (List Ink) :=
  let line := if line.any fun ink => ink.char == '\t' then expandTabs 1 0 [] line else line
  let lines := match wordsOf line with
    | [] => [line]
    | words => (words.foldl (Lines.addWord s.width s.overflow) ⟨[], [], 0⟩).toList
  lines.map fun l => align s (cutLine s (trimEnd s.width l))

def inkLines : List Ink → List (List Ink)
  | [] => [[]]
  | ink :: rest =>
    if ink.char = '\n' then [] :: inkLines rest
    else match inkLines rest with
      | line :: lines => (ink :: line) :: lines
      | [] => [[ink]]

def wrapInks (s : Layout) (inks : List Ink) : List (List Ink) :=
  (inkLines inks).flatMap (wrapLine s)

def wrap (s : Layout) (cs : List Char) : List (List Char) :=
  (wrapInks s (plainInks (withoutControls cs))).map inkChars

/-- Text on a console of a width, with the end of its last line. A console without a width shows
nothing. -/
def printed (width : Nat) (cs : List Char) : String :=
  if width = 0 then ""
  else String.ofList ((wrap ⟨width, .fold, .none⟩ cs).flatMap (· ++ ['\n']))

end ServiceCli.Console
