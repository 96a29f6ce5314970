import ServiceCli.Text.Charset.Basic
import ServiceCli.Text.Charset.Jis

set_option autoImplicit false
set_option relaxedAutoImplicit false

namespace ServiceCli.Text

def halfWideBytes : ByteRanges := [(0xa1, 0xdf)]

def halfWide? (b : UInt8) : Option Nat := (halfWideBytes.index? b.toNat).map (0xff61 + ·)

/-- The character of a byte in the Japanese variant of ASCII. -/
def japaneseAscii (b : UInt8) : Nat :=
  if b == 0x5c then 0xa5 else if b == 0x7e then 0x203e else b.toNat

/-! ### Bytes with their highest bits set -/

def halfWideMark : UInt8 := 0x8e

def secondGridMark : UInt8 := 0x8f

/-- What two bytes with their highest bits set stand for in a grid. -/
def highCell? (grid? : Nat → Nat → Option (List Nat)) (first second : UInt8) :
    Option (List Nat) :=
  if first < 0x80 || second < 0x80 then none
  else grid? (first.toNat - 0x80) (second.toNat - 0x80)

/-- One step of EUC with two Japanese grids. The cells of `empty` stand for nothing together. -/
def eucJapaneseStep (first? second? : Nat → Nat → Option (List Nat)) (empty : List (Nat × Nat))
    (b : UInt8) (rest : List UInt8) : Step :=
  if b < 0x80 then .char 1 b.toNat
  else match rest with
    | [] => .short
    | c :: more =>
      if b == halfWideMark then (halfWide? c).elim (.nothing 1) (.char 2)
      else if b == secondGridMark then
        match more with
        | [] => .short
        | d :: _ => (highCell? second? c d).elim (.nothing 1) (.chars 3)
      else if empty.contains (b.toNat - 0x80, c.toNat - 0x80) then .nothing 2
      else .pair? (highCell? first? b c)

def jisx0208Cell? (first second : Nat) : Option (List Nat) :=
  (jisx0208.number? first second).map ([·])

def jisx0212Cell? (first second : Nat) : Option (List Nat) :=
  (jisx0212.number? first second).map ([·])

/-- A cell of the first plane of an edition, with the wide form of the tilde. -/
def eucFirstPlane? (edition : Edition) (first second : Nat) : Option (List Nat) :=
  if (first, second) = (0x22, 0x32) then some [0xff5e] else firstPlane? edition first second

/-- A cell of the second plane of an edition, or of JIS X 0212, whose cells are others. -/
def eucSecondPlane? (edition : Edition) (first second : Nat) : Option (List Nat) :=
  secondPlane? edition first second <|> jisx0212Cell? first second

/-! ### Shifted bytes -/

def shiftedFirsts : ByteRanges := [(0x81, 0x9f), (0xe0, 0xfc)]

/-- The second bytes of shifted cells: two rows of 94 cells. -/
def shiftedSeconds : ByteRanges := [(0x40, 0x7e), (0x80, 0xfc)]

/-- The row and the cell that two bytes stand for, the row counted from zero. -/
def shiftedCell? (first second : UInt8) : Option (Nat × Nat) := do
  let place ← Grid.place? shiftedFirsts shiftedSeconds first.toNat second.toNat
  return (place / 94, 0x21 + place % 94)

def shiftedPair? (first second : UInt8) : Option (List Nat) := do
  let (row, cell) ← shiftedCell? first second
  jisx0208Cell? (0x21 + row) cell

/-- One step of a shifted set: `single?` tells what one byte stands for, and `firsts` which bytes
begin two. The cells of `empty` stand for nothing together. -/
def shiftedStep (single? : UInt8 → Option Nat) (firsts : ByteRanges)
    (pair? : UInt8 → UInt8 → Option (List Nat)) (empty : List (Nat × Nat)) (b : UInt8)
    (rest : List UInt8) : Step :=
  match single? b with
  | some number => .char 1 number
  | none =>
    if (firsts.index? b.toNat).isNone then .nothing 1
    else match rest with
      | [] => .short
      | c :: _ =>
        let isEmpty := (shiftedCell? b c).any fun (row, cell) => empty.contains (0x21 + row, cell)
        if isEmpty then .nothing 2 else .pair? (pair? b c)

def shiftedSingle? (b : UInt8) : Option Nat := if b < 0x80 then some b.toNat else halfWide? b

/-- What one byte stands for where ASCII is its Japanese variant. -/
def japaneseSingle? (b : UInt8) : Option Nat :=
  if b < 0x80 then some (japaneseAscii b) else halfWide? b

/-- The rows of the second plane that come first among the shifted rows beyond the first plane. -/
def secondPlaneRows : List Nat := [0x21, 0x28, 0x23, 0x24, 0x25, 0x2c, 0x2d, 0x2e, 0x2f]

/-- The row of the second plane that a shifted row beyond the first plane stands for. -/
def secondPlaneRow (row : Nat) : Nat :=
  secondPlaneRows.getD row (0x6e + (row - secondPlaneRows.length))

def planeRows : Nat := 94

/-- A shifted cell of an edition of JIS X 0213. What is wide elsewhere is as in ASCII. -/
def shiftedPlanes? (edition : Edition) (first second : UInt8) : Option (List Nat) := do
  let (row, cell) ← shiftedCell? first second
  if (row, cell) = (0, 0x40) then return [0x5c]
  else if row < planeRows then firstPlane? edition (0x21 + row) cell
  else secondPlane? edition (secondPlaneRow (row - planeRows)) cell

/-! ### The variant of Windows -/

/-- The characters in which the variant of Windows differs from Shift JIS. -/
def shiftedVariantRuns : List Run := [
  (0x81, 0x60, "～∥"),
  (0x81, 0x7c, "－"),
  (0x81, 0x91, "￠￡"),
  (0x81, 0xca, "￢"),
  (0x87, 0x40, "①②③④⑤⑥⑦⑧⑨⑩⑪⑫⑬⑭⑮⑯⑰⑱⑲⑳ⅠⅡⅢⅣⅤⅥⅦⅧⅨⅩ�㍉㌔㌢㍍㌘㌧㌃㌶㍑㍗㌍㌦㌣㌫㍊㌻"),
  (0x87, 0x6f, "㎜㎝㎞㎎㎏㏄㎡"),
  (0x87, 0x7e, "㍻〝〟№㏍℡㊤㊥㊦㊧㊨㈱㈲㈹㍾㍽㍼≒≡∫∮∑√⊥∠∟⊿∵∩∪"),
  (0xed, 0x40, "纊褜鍈銈蓜俉炻昱棈鋹曻彅丨仡仼伀伃伹佖侒侊侚侔俍偀倢俿倞偆偰偂傔僴僘兊兤冝冾凬刕劜劦勀勛匀匇匤"),
  (0xed, 0x6f, "卲厓厲叝﨎咜咊咩哿喆坙坥垬埈埇﨏\ufa10增墲夋奓奛奝奣妤妺孖寀甯寘寬尞岦岺峵崧嵓﨑嵂嵭嶸嶹巐弡弴彧德"),
  (0xed, 0x9f, "忞恝悅悊惞惕愠惲愑愷愰憘戓抦揵摠撝擎敎昀昕昻昉昮昞昤晥晗晙\ufa12晳暙暠暲暿曺朎\uf929杦枻桒柀栁桄棏﨓楨"),
  (0xed, 0xce, "﨔榘槢樰橫橆橳橾櫢櫤毖氿汜沆汯泚洄涇浯涖涬淏淸淲淼渹湜渧渼溿澈澵濵瀅瀇瀨炅炫焏焄煜煆煇\ufa15燁燾犱"),
  (0xee, 0x40, "犾猤\ufa16獷玽珉珖珣珒琇珵琦琪琩琮瑢璉璟甁畯皂皜皞皛皦\ufa17睆劯砡硎硤硺礰\ufa18\ufa19\ufa1a禔\ufa1b禛竑竧\ufa1c竫"),
  (0xee, 0x6b, "箞\ufa1d絈絜綷綠緖繒罇羡\ufa1e茁荢荿菇菶葈蒴蕓蕙蕫﨟薰\ufa20﨡蠇裵訒訷詹誧誾諟\ufa22諶譓譿賰賴贒赶﨣軏﨤\ufa25遧郞"),
  (0xee, 0x9b, "\ufa26鄕鄧釚釗釞釭釮釤釥鈆鈐鈊鈺鉀鈼鉎鉙鉑鈹鉧銧鉷鉸鋧鋗鋙鋐﨧鋕鋠鋓錥錡鋻﨨錞鋿錝錂鍰鍗鎤鏆鏞鏸鐱"),
  (0xee, 0xca, "鑅鑈閒\uf9dc﨩隝隯霳霻靃靍靏靑靕顗顥\ufa2a\ufa2b餧\ufa2c馞驎髙髜魵魲鮏鮱鮻鰀鵰鵫\ufa2d鸙黑��ⅰⅱⅲⅳⅴⅵⅶⅷⅸⅹ"),
  (0xee, 0xf9, "￢￤＇＂"),
  (0xfa, 0x40, "ⅰⅱⅲⅳⅴⅵⅶⅷⅸⅹⅠⅡⅢⅣⅤⅥⅦⅧⅨⅩ￢￤＇＂㈱№℡∵纊褜鍈銈蓜俉炻昱棈鋹曻彅丨仡仼伀伃伹佖"),
  (0xfa, 0x6f, "侒侊侚侔俍偀倢俿倞偆偰偂傔僴僘兊兤冝冾凬刕劜劦勀勛匀匇匤卲厓厲叝﨎咜咊咩哿喆坙坥垬埈埇﨏\ufa10增墲"),
  (0xfa, 0x9f, "夋奓奛奝奣妤妺孖寀甯寘寬尞岦岺峵崧嵓﨑嵂嵭嶸嶹巐弡弴彧德忞恝悅悊惞惕愠惲愑愷愰憘戓抦揵摠撝擎敎"),
  (0xfa, 0xce, "昀昕昻昉昮昞昤晥晗晙\ufa12晳暙暠暲暿曺朎\uf929杦枻桒柀栁桄棏﨓楨﨔榘槢樰橫橆橳橾櫢櫤毖氿汜沆汯泚洄涇浯"),
  (0xfb, 0x40, "涖涬淏淸淲淼渹湜渧渼溿澈澵濵瀅瀇瀨炅炫焏焄煜煆煇\ufa15燁燾犱犾猤\ufa16獷玽珉珖珣珒琇珵琦琪琩琮瑢璉璟甁"),
  (0xfb, 0x6f, "畯皂皜皞皛皦\ufa17睆劯砡硎硤硺礰\ufa18\ufa19\ufa1a禔\ufa1b禛竑竧\ufa1c竫箞\ufa1d絈絜綷綠緖繒罇羡\ufa1e茁荢荿"),
  (0xfb, 0x96, "菇菶葈蒴蕓蕙蕫﨟薰\ufa20﨡蠇裵訒訷詹誧誾諟\ufa22諶譓譿賰賴贒赶﨣軏﨤\ufa25遧郞\ufa26鄕鄧釚釗釞釭釮釤釥鈆鈐鈊鈺"),
  (0xfb, 0xc5, "鉀鈼鉎鉙鉑鈹鉧銧鉷鉸鋧鋗鋙鋐﨧鋕鋠鋓錥錡鋻﨨錞鋿錝錂鍰鍗鎤鏆鏞鏸鐱鑅鑈閒\uf9dc﨩隝隯霳霻靃靍靏靑靕"),
  (0xfb, 0xf4, "顗顥\ufa2a\ufa2b餧\ufa2c馞驎髙"),
  (0xfc, 0x40, "髜魵魲鮏鮱鮻鰀鵰鵫\ufa2d鸙黑")]

/-- The characters in which the variant of Windows differs from Shift JIS. -/
def shiftedVariant : Grid := .ofRuns [(0x81, 0xfc)] shiftedSeconds shiftedVariantRuns

/-- The rows of the variant of Windows that are left to users. -/
def shiftedUserFirsts : ByteRanges := [(0xf0, 0xf9)]

/-- What one byte of the variant of Windows stands for. -/
def variantSingle? (b : UInt8) : Option Nat :=
  if b ≤ 0x80 then some b.toNat
  else if b == 0xa0 then some 0xf8f0
  else if 0xfd ≤ b then some (0xf8f1 + (b.toNat - 0xfd))
  else halfWide? b

/-- The last first byte of JIS X 0208 in the variant of Windows. -/
def lastVariantFirst : UInt8 := 0xea

/-- What two bytes of the variant of Windows stand for. -/
def variantPair? (first second : UInt8) : Option (List Nat) :=
  ((shiftedVariant.number? first.toNat second.toNat).map ([·]))
    <|> (if first ≤ lastVariantFirst then shiftedPair? first second else none)
    <|> ((Grid.place? shiftedUserFirsts shiftedSeconds first.toNat second.toNat).map
      fun place => [0xe000 + place])

def japaneseCharsets : List Charset := [
  { name := "shift_jis"
    aliases := ["csshiftjis", "s_jis", "shiftjis", "sjis", "x_mac_japanese"]
    read := readEach (shiftedStep shiftedSingle? shiftedFirsts shiftedPair? []) },
  { name := "cp932"
    aliases := ["932", "ms932", "ms_kanji", "mskanji"]
    read := readEach (shiftedStep variantSingle? [(0x81, 0xfc)] variantPair? []) },
  { name := "shift_jis_2004"
    aliases := ["s_jis_2004", "shiftjis2004", "sjis_2004"]
    read := readEach (shiftedStep japaneseSingle? shiftedFirsts (shiftedPlanes? .later) []) },
  { name := "shift_jisx0213"
    aliases := ["s_jisx0213", "shiftjisx0213", "sjisx0213"]
    read := readEach (shiftedStep japaneseSingle? shiftedFirsts (shiftedPlanes? .earlier)
      laterCells) },
  { name := "euc_jp"
    aliases := ["eucjp", "u_jis", "ujis"]
    read := readEach (eucJapaneseStep jisx0208Cell? jisx0212Cell? []) },
  { name := "euc_jis_2004"
    aliases := ["euc_jis2004", "eucjis2004", "jisx0213"]
    read := readEach (eucJapaneseStep (eucFirstPlane? .later) (eucSecondPlane? .later) []) },
  { name := "euc_jisx0213"
    aliases := ["eucjisx0213"]
    read := readEach (eucJapaneseStep (eucFirstPlane? .earlier) (eucSecondPlane? .earlier)
      laterCells) }]

end ServiceCli.Text
