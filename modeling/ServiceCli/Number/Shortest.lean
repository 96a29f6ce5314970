import ServiceCli.Number.Binary64

/-!
The shortest decimal text of a binary64 number: the fewest digits that read back as the number,
the nearest such digits to it, and among two equally near the even ones.
-/

set_option autoImplicit false
set_option relaxedAutoImplicit false

namespace ServiceCli.Number

/-- Digits `d₁d₂…dₙ` and a place: the number `0.d₁d₂…dₙ · 10 ^ place`. -/
structure Decimal where
  digits : List Char
  place : Int
  deriving DecidableEq, Repr

/-- How a decimal is written: the places of the point at which plain notation is used, and the
least number of exponent digits. -/
structure DecimalNotation where
  leastPlace : Int
  greatestPlace : Int
  exponentDigits : Nat

/-- Numbers from `0.0001` to below `10 ^ 16` are written plainly, all others with an exponent of
two digits or more. -/
def plainUpToSixteen : DecimalNotation := ⟨-3, 16, 2⟩

def digitsOf (n : Nat) : List Char := Nat.toDigits 10 n

def padLeft (width : Nat) (fill : Char) (cs : List Char) : List Char :=
  List.replicate (width - cs.length) fill ++ cs

namespace DecimalNotation

/-- The text of a decimal without its sign. A plain whole number ends in `.0`. -/
def write (form : DecimalNotation) (x : Decimal) : List Char :=
  let n : Int := x.digits.length
  if form.leastPlace ≤ x.place && x.place ≤ form.greatestPlace then
    if x.place ≤ 0 then '0' :: '.' :: List.replicate (-x.place).toNat '0' ++ x.digits
    else if n ≤ x.place then
      x.digits ++ List.replicate (x.place - n).toNat '0' ++ ['.', '0']
    else x.digits.take x.place.toNat ++ '.' :: x.digits.drop x.place.toNat
  else
    let exponent := x.place - 1
    let mantissa := match x.digits with
      | [] => ['0']
      | [d] => [d]
      | d :: rest => d :: '.' :: rest
    mantissa ++ 'e' :: (if exponent < 0 then '-' else '+') ::
      padLeft form.exponentDigits '0' (digitsOf exponent.natAbs)

end DecimalNotation

namespace Binary64

/-- The least `k` from `start` on with `num / den < 10 ^ k`; at most `fuel` steps are taken. -/
private def placeFrom (num den : Nat) : Nat → Int → Int
  | 0, k => k
  | fuel + 1, k =>
    let below :=
      if 0 ≤ k then num < den * Nat.pow 10 k.toNat else num * Nat.pow 10 (-k).toNat < den
    if below then k else placeFrom num den fuel (k + 1)

/-- The place of the leading digit of a positive ratio. -/
private def leadingPlace (num den : Nat) : Int :=
  let bits : Int := (num.log2 : Int) - (den.log2 : Int)
  placeFrom num den 4 ((bits - 1) * 30103 / 100000)

/-- The decimal of at most `n` digits that reads back as the number, when there is one; the
candidates are the two neighbours of the number on the grid of `n` digits. -/
private def gridHit? (target : Binary64) (num den : Nat) (place : Int) (n : Nat) : Option Nat :=
  let shift : Int := (n : Int) - place
  let (a, b) := if 0 ≤ shift then (num * Nat.pow 10 shift.toNat, den)
    else (num, den * Nat.pow 10 (-shift).toNat)
  let low := a / b
  let rest := a % b
  let reads (c : Nat) : Bool := ofDecimal false c (-shift) == target
  let lowHit := reads low
  let highHit := rest != 0 && reads (low + 1)
  if lowHit && highHit then
    if 2 * rest < b then some low
    else if b < 2 * rest then some (low + 1)
    else if low % 2 == 0 then some low else some (low + 1)
  else if lowHit then some low
  else if highHit then some (low + 1)
  else none

private def dropTrailingZeros (cs : List Char) : List Char :=
  (cs.reverse.dropWhile (· == '0')).reverse

def shortest (mantissa : Nat) (exponent : Int) : Decimal :=
  let (up, down) := twoPower exponent
  let num := mantissa * up
  let place := leadingPlace num down
  let target := Binary64.finite false mantissa exponent
  match (List.range 17).findSome? fun i =>
      (gridHit? target num down place (i + 1)).map fun c => (i + 1, c) with
  | some (n, c) =>
    let ds := digitsOf c
    ⟨dropTrailingZeros ds, place + ((ds.length : Int) - n)⟩
  | none => ⟨['0'], 1⟩

def textIn (form : DecimalNotation) (infinity notANumber : String) : Binary64 → String
  | .nan => notANumber
  | .infinite s => (if s then "-" else "") ++ infinity
  | .finite s m e =>
    let body := if m == 0 then ['0', '.', '0'] else form.write (shortest m e)
    String.ofList (if s then '-' :: body else body)

/-- The text of a number in source code and messages. -/
def text (x : Binary64) : String := x.textIn plainUpToSixteen "inf" "nan"

end Binary64

end ServiceCli.Number
