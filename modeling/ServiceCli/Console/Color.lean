import ServiceCli.Number.Binary64
import ServiceCli.Number.Numeral
import ServiceCli.Text.LetterCase
import ServiceCli.Text.Split

set_option autoImplicit false
set_option relaxedAutoImplicit false

namespace ServiceCli.Console

/-- The red, green and blue parts of a colour, each at most 255. -/
structure Parts where
  red : Nat
  green : Nat
  blue : Nat
  deriving DecidableEq, Repr

/-- What a colour is. -/
inductive Hue where
  | default
  | numbered (n : Nat)
  | mixed (parts : Parts)
  deriving DecidableEq, Repr

/-- A colour and the word for it. -/
structure Color where
  name : String
  hue : Hue
  deriving DecidableEq, Repr

/-- The colours that a terminal knows: the first sixteen, all that have a number, or all. -/
inductive Depth where
  | basic
  | numbered
  | full
  deriving DecidableEq, Repr

/-- Why a text is no style: its form is another, or it has a number that cannot be read. -/
inductive StyleProblem where
  | form
  | number
  deriving DecidableEq, Repr

def colorNames : List (String × Nat) := [
  ("black", 0), ("red", 1), ("green", 2), ("yellow", 3), ("blue", 4), ("magenta", 5), ("cyan", 6),
  ("white", 7), ("bright_black", 8), ("bright_red", 9), ("bright_green", 10),
  ("bright_yellow", 11), ("bright_blue", 12), ("bright_magenta", 13), ("bright_cyan", 14),
  ("bright_white", 15), ("grey0", 16), ("gray0", 16), ("navy_blue", 17), ("dark_blue", 18),
  ("blue3", 20), ("blue1", 21), ("dark_green", 22), ("deep_sky_blue4", 25), ("dodger_blue3", 26),
  ("dodger_blue2", 27), ("green4", 28), ("spring_green4", 29), ("turquoise4", 30),
  ("deep_sky_blue3", 32), ("dodger_blue1", 33), ("green3", 40), ("spring_green3", 41),
  ("dark_cyan", 36), ("light_sea_green", 37), ("deep_sky_blue2", 38), ("deep_sky_blue1", 39),
  ("spring_green2", 47), ("cyan3", 43), ("dark_turquoise", 44), ("turquoise2", 45), ("green1", 46),
  ("spring_green1", 48), ("medium_spring_green", 49), ("cyan2", 50), ("cyan1", 51),
  ("dark_red", 88), ("deep_pink4", 125), ("purple4", 55), ("purple3", 56), ("blue_violet", 57),
  ("orange4", 94), ("grey37", 59), ("gray37", 59), ("medium_purple4", 60), ("slate_blue3", 62),
  ("royal_blue1", 63), ("chartreuse4", 64), ("dark_sea_green4", 71), ("pale_turquoise4", 66),
  ("steel_blue", 67), ("steel_blue3", 68), ("cornflower_blue", 69), ("chartreuse3", 76),
  ("cadet_blue", 73), ("sky_blue3", 74), ("steel_blue1", 81), ("pale_green3", 114),
  ("sea_green3", 78), ("aquamarine3", 79), ("medium_turquoise", 80), ("chartreuse2", 112),
  ("sea_green2", 83), ("sea_green1", 85), ("aquamarine1", 122), ("dark_slate_gray2", 87),
  ("dark_magenta", 91), ("dark_violet", 128), ("purple", 129), ("light_pink4", 95), ("plum4", 96),
  ("medium_purple3", 98), ("slate_blue1", 99), ("yellow4", 106), ("wheat4", 101), ("grey53", 102),
  ("gray53", 102), ("light_slate_grey", 103), ("light_slate_gray", 103), ("medium_purple", 104),
  ("light_slate_blue", 105), ("dark_olive_green3", 149), ("dark_sea_green", 108),
  ("light_sky_blue3", 110), ("sky_blue2", 111), ("dark_sea_green3", 150),
  ("dark_slate_gray3", 116), ("sky_blue1", 117), ("chartreuse1", 118), ("light_green", 120),
  ("pale_green1", 156), ("dark_slate_gray1", 123), ("red3", 160), ("medium_violet_red", 126),
  ("magenta3", 164), ("dark_orange3", 166), ("indian_red", 167), ("hot_pink3", 168),
  ("medium_orchid3", 133), ("medium_orchid", 134), ("medium_purple2", 140),
  ("dark_goldenrod", 136), ("light_salmon3", 173), ("rosy_brown", 138), ("grey63", 139),
  ("gray63", 139), ("medium_purple1", 141), ("gold3", 178), ("dark_khaki", 143),
  ("navajo_white3", 144), ("grey69", 145), ("gray69", 145), ("light_steel_blue3", 146),
  ("light_steel_blue", 147), ("yellow3", 184), ("dark_sea_green2", 157), ("light_cyan3", 152),
  ("light_sky_blue1", 153), ("green_yellow", 154), ("dark_olive_green2", 155),
  ("dark_sea_green1", 193), ("pale_turquoise1", 159), ("deep_pink3", 162), ("magenta2", 200),
  ("hot_pink2", 169), ("orchid", 170), ("medium_orchid1", 207), ("orange3", 172),
  ("light_pink3", 174), ("pink3", 175), ("plum3", 176), ("violet", 177), ("light_goldenrod3", 179),
  ("tan", 180), ("misty_rose3", 181), ("thistle3", 182), ("plum2", 183), ("khaki3", 185),
  ("light_goldenrod2", 222), ("light_yellow3", 187), ("grey84", 188), ("gray84", 188),
  ("light_steel_blue1", 189), ("yellow2", 190), ("dark_olive_green1", 192), ("honeydew2", 194),
  ("light_cyan1", 195), ("red1", 196), ("deep_pink2", 197), ("deep_pink1", 199), ("magenta1", 201),
  ("orange_red1", 202), ("indian_red1", 204), ("hot_pink", 206), ("dark_orange", 208),
  ("salmon1", 209), ("light_coral", 210), ("pale_violet_red1", 211), ("orchid2", 212),
  ("orchid1", 213), ("orange1", 214), ("sandy_brown", 215), ("light_salmon1", 216),
  ("light_pink1", 217), ("pink1", 218), ("plum1", 219), ("gold1", 220), ("navajo_white1", 223),
  ("misty_rose1", 224), ("thistle1", 225), ("yellow1", 226), ("light_goldenrod1", 227),
  ("khaki1", 228), ("wheat1", 229), ("cornsilk1", 230), ("grey100", 231), ("gray100", 231),
  ("grey3", 232), ("gray3", 232), ("grey7", 233), ("gray7", 233), ("grey11", 234), ("gray11", 234),
  ("grey15", 235), ("gray15", 235), ("grey19", 236), ("gray19", 236), ("grey23", 237),
  ("gray23", 237), ("grey27", 238), ("gray27", 238), ("grey30", 239), ("gray30", 239),
  ("grey35", 240), ("gray35", 240), ("grey39", 241), ("gray39", 241), ("grey42", 242),
  ("gray42", 242), ("grey46", 243), ("gray46", 243), ("grey50", 244), ("gray50", 244),
  ("grey54", 245), ("gray54", 245), ("grey58", 246), ("gray58", 246), ("grey62", 247),
  ("gray62", 247), ("grey66", 248), ("gray66", 248), ("grey70", 249), ("gray70", 249),
  ("grey74", 250), ("gray74", 250), ("grey78", 251), ("gray78", 251), ("grey82", 252),
  ("gray82", 252), ("grey85", 253), ("gray85", 253), ("grey89", 254), ("gray89", 254),
  ("grey93", 255), ("gray93", 255)]

/-- The number of a digit to the base of sixteen; only small letters count. -/
def hexDigitValue? (c : Char) : Option Nat :=
  if c.isDigit then some (c.toNat - '0'.toNat)
  else if 'a' ≤ c && c ≤ 'f' then some (c.toNat - 'a'.toNat + 10)
  else none

/-- The colour that six digits to the base of sixteen mix. -/
def hexParts? (digits : List Char) : Option Parts := do
  match ← digits.mapM hexDigitValue? with
  | [r, r', g, g', b, b'] => some ⟨16 * r + r', 16 * g + g', 16 * b + b'⟩
  | _ => none

def inParentheses? (word cs : List Char) : Option (List Char) :=
  let rest := cs.drop (word.length + 1)
  if (word ++ ['(']).isPrefixOf cs && rest.getLast? == some ')' then some rest.dropLast else none

/-- The colour whose three parts are given as numbers. -/
def mixedParts (numbers : List Char) : Except StyleProblem Parts :=
  match Text.splitAt ',' numbers with
  | [r, g, b] =>
    match [r, g, b].mapM fun cs => Number.parseInt? 10 (String.ofList cs) with
    | some [r, g, b] =>
      if r ≤ 255 && g ≤ 255 && b ≤ 255 then .ok ⟨r.toNat, g.toNat, b.toNat⟩ else .error .form
    | _ => .error .number
  | _ => .error .form

/-- The digits of any script, and commas. -/
def isListed (c : Char) : Bool := c == ',' || (Number.asciiCharacter c).isDigit

/-- What a word for a colour in small letters means. -/
def Hue.ofWord (word : String) : Except StyleProblem Hue :=
  if word = "default" then .ok .default
  else match colorNames.lookup word, word.toList with
    | some n, _ => .ok (.numbered n)
    | none, '#' :: digits =>
      match hexParts? digits with
      | some parts => .ok (.mixed parts)
      | none => .error .form
    | none, cs =>
      match inParentheses? "color".toList cs, inParentheses? "rgb".toList cs with
      | some digits, _ =>
        let n := Number.digitsToNat digits
        if digits.all Char.isDigit && !digits.isEmpty && digits.length ≤ 3 && n ≤ 255 then
          .ok (.numbered n)
        else .error .form
      | none, some numbers =>
        if numbers.all isListed && !numbers.isEmpty then (mixedParts numbers).map .mixed
        else .error .form
      | none, none => .error .form

def Color.ofWord (word : String) : Except StyleProblem Color := do
  let name := Text.lower word
  return ⟨name, ← Hue.ofWord name⟩

/-- The first sixteen colours, as they are compared with others. -/
def basicColors : List Parts := [
  ⟨0, 0, 0⟩, ⟨170, 0, 0⟩, ⟨0, 170, 0⟩, ⟨170, 85, 0⟩, ⟨0, 0, 170⟩, ⟨170, 0, 170⟩, ⟨0, 170, 170⟩,
  ⟨170, 170, 170⟩, ⟨85, 85, 85⟩, ⟨255, 85, 85⟩, ⟨85, 255, 85⟩, ⟨255, 255, 85⟩, ⟨85, 85, 255⟩,
  ⟨255, 85, 255⟩, ⟨85, 255, 255⟩, ⟨255, 255, 255⟩]

/-- The amounts of a part in the cube of numbered colours. -/
def cubeAmounts : List Nat := [0, 95, 135, 175, 215, 255]

/-- The parts of a colour with a number from sixteen on: a cube of colours and a row of greys. -/
def numberedParts (n : Nat) : Parts :=
  if n < 232 then
    let amount (k : Nat) : Nat := cubeAmounts.getD (k % 6) 0
    ⟨amount ((n - 16) / 36), amount ((n - 16) / 6), amount (n - 16)⟩
  else
    let amount := 8 + 10 * (n - 232)
    ⟨amount, amount, amount⟩

/-- How far two colours are apart for the eye. -/
def Parts.distance (x y : Parts) : Nat :=
  let mean := (x.red + y.red) / 2
  let square (a b : Nat) : Nat := (max a b - min a b) * (max a b - min a b)
  (512 + mean) * square x.red y.red / 256 + 4 * square x.green y.green
    + (767 - mean) * square x.blue y.blue / 256

/-- The number of the first basic colour that comes closest. -/
def Parts.basic (x : Parts) : Nat :=
  let distances := basicColors.map x.distance
  distances.findIdx (· == distances.foldl min (distances.headD 0))

def cubeStep (part : Nat) : Nat :=
  if part < 95 then Number.Binary64.divideToEven part 95
  else 1 + Number.Binary64.divideToEven (part - 95) 40

/-- The number of a grey, by the sum of the greatest and the least part. -/
def greyNumber (sum : Nat) : Nat :=
  let step := Number.Binary64.divideToEven (sum * 25) 510
  if step = 0 then 16 else if step = 25 then 231 else 231 + step

/-- The number of the colour in the cube that comes close, or of a grey where the colour has little
saturation. -/
def Parts.number (x : Parts) : Nat :=
  let most := max x.red (max x.green x.blue)
  let least := min x.red (min x.green x.blue)
  let sum := most + least
  let room := if sum ≤ 255 then sum else 510 - sum
  if (most - least) * 100 < 15 * room || most = least then greyNumber sum
  else 16 + 36 * cubeStep x.red + 6 * cubeStep x.green + cubeStep x.blue

def Hue.atDepth (depth : Depth) : Hue → Hue
  | .default => .default
  | .numbered n =>
    if depth = .basic && 16 ≤ n then .numbered (numberedParts n).basic else .numbered n
  | .mixed parts =>
    match depth with
    | .basic => .numbered parts.basic
    | .numbered => .numbered parts.number
    | .full => .mixed parts

/-- The codes of a colour, given the code of the first of the basic ones: 30 for the letters and 40
for the ground behind them. The eight brighter ones begin 60 later. -/
def Hue.codes (base : Nat) : Hue → List Nat
  | .default => [base + 9]
  | .numbered n =>
    if n < 8 then [base + n] else if n < 16 then [base + 52 + n] else [base + 8, 5, n]
  | .mixed parts => [base + 8, 2, parts.red, parts.green, parts.blue]

end ServiceCli.Console
