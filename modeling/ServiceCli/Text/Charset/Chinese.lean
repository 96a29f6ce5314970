import ServiceCli.Text.Charset.Basic
import ServiceCli.Text.Charset.Gb2312
import ServiceCli.Text.Charset.Hkscs

set_option autoImplicit false
set_option relaxedAutoImplicit false

namespace ServiceCli.Text

/-- What two bytes with their highest bits set stand for in GB 2312. -/
def gb2312Pair? (first second : UInt8) : Option (List Nat) :=
  if first < 0x80 || second < 0x80 then none
  else (gb2312.number? (first.toNat - 0x80) (second.toNat - 0x80)).map ([·])

/-! ### The wide set -/

def wideSeconds : ByteRanges := [(0x40, 0x7e), (0x80, 0xfe)]

/-- The bytes of the cells beside the grid of GB 2312. -/
def besideSeconds : ByteRanges := [(0x40, 0x7e), (0x80, 0xa0)]

/-- The number of further ideographs in the rows before those of GB 2312. -/
def beforeCount : Nat := 32 * wideSeconds.size

/-- The ideographs of the first unified block that GB 2312 lacks. -/
def furtherIdeographs : List Nat := Grid.lacking [gb2312] 0x4e00 0x9fa5

/-- The further ideographs in the rows before those of GB 2312. -/
def beforeGrid : Grid := .ofNumbers [(0x81, 0xa0)] wideSeconds (furtherIdeographs.take beforeCount)

/-- The further ideographs in the cells beside the grid of GB 2312. -/
def besideGrid : Grid :=
  .ofNumbers [(0xaa, 0xfe)] besideSeconds (furtherIdeographs.drop beforeCount)

/-- The other characters of the wide set; two of them replace characters of GB 2312. -/
def wideRuns : List Run := [
  (0xa1, 0xa4, "·"),
  (0xa1, 0xaa, "—"),
  (0xa2, 0xa1, "ⅰⅱⅲⅳⅴⅵⅶⅷⅸⅹ"),
  (0xa6, 0xe0, "︵︶︹︺︿﹀︽︾﹁﹂﹃﹄��︻︼︷︸︱�︳︴"),
  (0xa8, 0x40, "ˊˋ˙–―‥‵℅℉↖↗↘↙∕∟∣≒≦≧⊿═║╒╓╔╕╖╗╘╙╚╛╜╝╞╟╠╡╢╣╤╥╦╧╨╩╪"),
  (0xa8, 0x6f, "╫╬╭╮╯╰╱╲╳▁▂▃▄▅▆▇█▉▊▋▌▍▎▏▓▔▕▼▽◢◣◤◥☉⊕〒〝〞"),
  (0xa8, 0xbb, "ɑ�ńň�ɡ"),
  (0xa9, 0x40, "〡〢〣〤〥〦〧〨〩㊣㎎㎏㎜㎝㎞㎡㏄㏎㏑㏒㏕︰￢￤�℡㈱�‐"),
  (0xa9, 0x60, "ー゛゜ヽヾ〆ゝゞ﹉﹊﹋﹌﹍﹎﹏﹐﹑﹒﹔﹕﹖﹗﹙﹚﹛﹜﹝﹞﹟﹠﹡﹢﹣﹤﹥﹦﹨﹩﹪﹫"),
  (0xa9, 0x96, "〇"),
  (0xfd, 0x9c, "\uf92c\uf979\uf995\uf9e7\uf9f1"),
  (0xfe, 0x40, "\ufa0c\ufa0d﨎﨏﨑﨓﨔\ufa18﨟\ufa20﨡﨣﨤﨧﨨﨩")]

def wideFirsts : ByteRanges := [(0x81, 0xfe)]

def wideGrid : Grid := .ofRuns wideFirsts wideSeconds wideRuns

/-- What a cell of the wide set stands for. -/
def wideNumber? (first second : Nat) : Option Nat :=
  wideGrid.number? first second
    <|> (if 0x80 ≤ first && 0x80 ≤ second then gb2312.number? (first - 0x80) (second - 0x80)
      else none)
    <|> beforeGrid.number? first second <|> besideGrid.number? first second

/-- What two bytes stand for in the wide set. -/
def widePair? (first second : UInt8) : Option (List Nat) :=
  (wideNumber? first.toNat second.toNat).map ([·])

/-! ### The widest set -/

/-- The parts of the grid that are left to users, each with its rows and its cells. -/
def userParts : List (ByteRanges × ByteRanges) := [
  ([(0xaa, 0xaf)], [(0xa1, 0xfe)]), ([(0xf8, 0xfe)], [(0xa1, 0xfe)]),
  ([(0xa1, 0xa7)], besideSeconds)]

def firstPrivate : Nat := 0xe000

/-- What a cell stands for that is left to users: numbers for private use in order. -/
def userNumber? (first second : Nat) : Option Nat :=
  (userParts.foldl (fun (found?, start) (firsts, seconds) =>
    (found? <|> (Grid.place? firsts seconds first second).map (start + ·),
      start + firsts.size * seconds.size)) ((none : Option Nat), firstPrivate)).1

/-- The characters that were not known when the cells of the widest set were numbered. -/
def widestRuns : List Run := [
  (0xa2, 0xe3, "€"),
  (0xa8, 0xbf, "ǹ"),
  (0xa9, 0x89, "〾⿰⿱⿲⿳⿴⿵⿶⿷⿸⿹⿺⿻"),
  (0xfe, 0x50, "⺁���⺄㑳㑇⺈⺋�㖞㘚㘎⺌⺗㥮㤘�㧏㧟㩳㧐��㭎㱮㳠⺧��⺪䁖䅟⺮䌷⺳⺶⺷�䎱䎬⺻䏝䓖䙡䙌�"),
  (0xfe, 0x80, "䜣䜩䝼䞍⻊䥇䥺䥽䦂䦃䦅䦆䦟䦛䦷䦶��䲣䲟䲠䲡䱷䲢䴓䴔䴕䴖䴗䴘䴙䶮")]

/-- The characters that were not known when the cells of the widest set were numbered. -/
def widestNewer : Grid := .ofRuns wideFirsts wideSeconds widestRuns

/-- The cells that the wide set and its users leave empty, in order. -/
def emptyCells : List (Nat × Nat) :=
  (List.range' 0x81 126).flatMap fun first =>
    ((List.range' 0x40 63 ++ List.range' 0x80 127).filter fun second =>
      (wideNumber? first second <|> userNumber? first second).isNone).map (first, ·)

/-- The number for private use of the first cell that is left. -/
def firstLeft : Nat := 0xe766

/-- The cells that are left, with numbers for private use in order. -/
def leftGrid : Grid :=
  let cells := (emptyCells.zipIdx firstLeft).foldl (fun cells ((first, second), number) =>
    (Grid.place? wideFirsts wideSeconds first second).elim cells fun place =>
      cells.setIfInBounds place number) (Array.replicate (wideFirsts.size * wideSeconds.size) 0)
  ⟨wideFirsts, wideSeconds, cells⟩

/-- What a cell of the widest set stands for. -/
def widestNumber? (first second : Nat) : Option Nat :=
  wideNumber? first second <|> userNumber? first second <|> widestNewer.number? first second
    <|> leftGrid.number? first second

/-- All cells of the widest set. -/
def widestGrid : Grid :=
  .ofNumbers wideFirsts wideSeconds
    ((List.range' 0x81 126).flatMap fun first =>
      (List.range' 0x40 63 ++ List.range' 0x80 127).map fun second =>
        (widestNumber? first second).getD 0)

/-- The characters of the first plane that no two bytes stand for, in order. -/
def quadNumbers : Array Nat :=
  ((Grid.lacking [widestGrid] 0x80 0xffff).filter fun n => !isHighHalf n && !isLowHalf n).toArray

/-- Four bytes beyond this many stand for characters beyond the first plane. -/
def quadStart : Nat := 189000

/-- What four bytes stand for: two digits and two letters by turns. -/
def quad? (first second third fourth : Nat) : Option Nat := do
  let a ← [(0x81, 0xfe)] |> fun (r : ByteRanges) => r.index? first
  let b ← [(0x30, 0x39)] |> fun (r : ByteRanges) => r.index? second
  let c ← [(0x81, 0xfe)] |> fun (r : ByteRanges) => r.index? third
  let d ← [(0x30, 0x39)] |> fun (r : ByteRanges) => r.index? fourth
  let place := ((a * 10 + b) * 126 + c) * 10 + d
  if place < quadStart then quadNumbers[place]?
  else
    let number := 0x10000 + (place - quadStart)
    if number ≤ 0x10ffff then some number else none

/-- One step of the widest set: a digit as the second byte begins a character of four bytes. -/
def widestStep (b : UInt8) (rest : List UInt8) : Step :=
  if b < 0x80 then .char 1 b.toNat
  else match rest with
    | [] => .short
    | second :: more =>
      if 0x30 ≤ second && second ≤ 0x39 then
        match more with
        | third :: fourth :: _ =>
          (quad? b.toNat second.toNat third.toNat fourth.toNat).elim (.nothing 1) (.char 4)
        | _ => .short
      else .pair? ((widestGrid.number? b.toNat second.toNat).map ([·]))

/-! ### Shifts between ASCII and the grid -/

/-- One step of HZ; `inGrid` tells whether pairs of bytes stand for cells of the grid. After a
tilde, braces shift and a line end is dropped. -/
def hzStep (inGrid : Bool) (b : UInt8) (rest : List UInt8) : Bool × Step :=
  if b == 0x7e then
    match rest with
    | [] => (inGrid, .short)
    | second :: _ =>
      match inGrid, Char.ofNat second.toNat with
      | false, '~' => (false, .char 2 0x7e)
      | false, '\x7b' => (true, .chars 2 [])
      | false, '\n' => (false, .chars 2 [])
      | true, '\x7d' => (false, .chars 2 [])
      | _, _ => (inGrid, .nothing 1)
  else if 0x80 ≤ b then (inGrid, .nothing 1)
  else if !inGrid then (false, .char 1 b.toNat)
  else match rest with
    | [] => (true, .short)
    | second :: _ => (true, .pair? ((gb2312.number? b.toNat second.toNat).map ([·])))

/-! ### Traditional ideographs -/

def big5Pair? (first second : UInt8) : Option (List Nat) :=
  (big5.number? first.toNat second.toNat).map ([·])

/-- The characters in which the variant of Windows differs from Big5. -/
def big5VariantRuns : List Run := [
  (0xa1, 0x45, "‧"),
  (0xa1, 0x4e, "﹑"),
  (0xa1, 0xc2, "¯"),
  (0xa1, 0xe3, "～"),
  (0xa1, 0xf2, "⊕⊙"),
  (0xa2, 0x41, "∕﹨�￥�￠￡"),
  (0xa3, 0xe1, "€"),
  (0xf9, 0xd6, "碁銹裏墻恒粧嫺╔╦╗╠╬╣╚╩╝╒╤╕╞╪╡╘╧╛╓╥╖╟╫╢╙╨╜║═╭╮╰╯▓")]

/-- The characters in which the variant of Windows differs from Big5. -/
def big5Variant : Grid := .ofRuns [(0xa1, 0xf9)] big5Seconds big5VariantRuns

/-- What two bytes stand for in the variant of Windows. -/
def big5VariantPair? (first second : UInt8) : Option (List Nat) :=
  (big5Variant.number? first.toNat second.toNat).map ([·]) <|> big5Pair? first second

/-- Whether a cell belongs to the rows that the Hong Kong supplement fills anew. -/
def isRefilled (first second : Nat) : Bool :=
  0xc6 ≤ first && first ≤ 0xc8 && (0xc7 ≤ first || 0xa1 ≤ second)

/-- What two bytes stand for in Big5 with the Hong Kong supplement. -/
def hkscsPair? (first second : UInt8) : Option (List Nat) :=
  let cell := (first.toNat, second.toNat)
  (if isRefilled cell.1 cell.2 then none else big5Pair? first second)
    <|> (hkscs.number? cell.1 cell.2).map ([·]) <|> hkscsPairs.lookup cell

def chineseCharsets : List Charset := [
  { name := "gb2312"
    aliases := ["chinese", "csiso58gb231280", "euc_cn", "euccn", "eucgb2312_cn", "gb2312_1980",
      "gb2312_80", "iso_ir_58", "x_mac_simp_chinese"]
    read := readEach (doubleStep gb2312Pair?) },
  { name := "gbk"
    aliases := ["936", "cp936", "ms936"]
    read := readEach (doubleStep widePair?) },
  { name := "gb18030", aliases := ["gb18030_2000"], read := readEach widestStep },
  { name := "hz", aliases := ["hz_gb", "hz_gb_2312", "hzgb"], read := readFrom hzStep false 0 },
  { name := "big5"
    aliases := ["big5_tw", "csbig5", "x_mac_trad_chinese"]
    read := readEach (doubleStep big5Pair?) },
  { name := "cp950"
    aliases := ["950", "ms950"]
    read := readEach (doubleStep big5VariantPair?) },
  { name := "big5hkscs"
    aliases := ["big5_hkscs", "hkscs"]
    read := readEach (doubleStep hkscsPair?) }]

end ServiceCli.Text
