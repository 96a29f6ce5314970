import ServiceCli.Console.CellWidth

set_option autoImplicit false
set_option relaxedAutoImplicit false

namespace ServiceCli.Console

def joiner : Char := '\u200d'

def pictureSelector : Char := '\ufe0f'

/-- The cells that the selector adds to the last character that has a cell. -/
def pictureGain (last? : Option Char) : Nat :=
  if last?.any fun c => Text.inRanges pictureRanges c.toNat then 1 else 0

/-- The cells of a text after its last character with a cell; a `joined` text begins with a
character that a joiner takes. -/
def cellsFrom (last? : Option Char) (joined : Bool) : List Char → Nat
  | [] => 0
  | c :: rest =>
    if joined then cellsFrom last? false rest
    else if c = joiner then cellsFrom last? true rest
    else if c = pictureSelector then pictureGain last? + cellsFrom none false rest
    else cellWidth c + cellsFrom (if cellWidth c = 0 then last? else some c) false rest

def cells (cs : List Char) : Nat := cellsFrom none false cs

/-- Characters that are shown together, and their cells. -/
structure Glyph where
  chars : List Char
  width : Nat
  deriving DecidableEq, Repr

/-- A glyph with one more character that adds some cells. -/
def Glyph.add (g : Glyph) (c : Char) (gain : Nat) : Glyph := ⟨g.chars ++ [c], g.width + gain⟩

/-- The glyphs of a text that continues a glyph; `last?` and `joined` are those of `cellsFrom`. -/
def glyphsFrom (glyph : Glyph) (last? : Option Char) (joined : Bool) : List Char → List Glyph
  | [] => [glyph]
  | c :: rest =>
    if joined then glyphsFrom (glyph.add c 0) last? false rest
    else if c = joiner then glyphsFrom (glyph.add c 0) last? true rest
    else if c = pictureSelector then
      glyphsFrom (glyph.add c (pictureGain last?)) none false rest
    else if cellWidth c = 0 then glyphsFrom (glyph.add c 0) last? false rest
    else glyph :: glyphsFrom ⟨[c], cellWidth c⟩ (some c) false rest

/-- The glyphs of a text. At its beginning a joiner and a selector are characters without a cell. -/
def glyphs : List Char → List Glyph
  | [] => []
  | c :: rest =>
    if c = joiner || c = pictureSelector || cellWidth c = 0 then glyphsFrom ⟨[c], 0⟩ none false rest
    else glyphsFrom ⟨[c], cellWidth c⟩ (some c) false rest

/-- The part of glyphs that fits a width; half of a wide glyph is a space. -/
def cutGlyphs (width : Nat) : List Glyph → List Char
  | [] => []
  | g :: rest =>
    if g.width ≤ width then g.chars ++ cutGlyphs (width - g.width) rest
    else List.replicate width ' '

/-- Glyphs put into parts of at most a width, from the left; `used` are the cells of the part that
was begun. -/
def foldGlyphs (width used : Nat) (part : List Char) : List Glyph → List (List Char)
  | [] => [part]
  | g :: rest =>
    if width < used + g.width then part :: foldGlyphs width g.width g.chars rest
    else foldGlyphs width (used + g.width) (part ++ g.chars) rest

end ServiceCli.Console
