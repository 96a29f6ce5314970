set_option autoImplicit false
set_option relaxedAutoImplicit false

/-!
Binary floating-point numbers of 64 bits, held exactly: a finite number is a sign, a mantissa and
a power of two. Reading and arithmetic round the exact rational result to the nearest number,
ties to the even mantissa.
-/

namespace ServiceCli.Number

/-- A binary64 number. In canonical form a finite mantissa is below `2 ^ 53`, the exponent is at
least `-1074`, and the mantissa is at least `2 ^ 52` unless the exponent is `-1074`. -/
inductive Binary64 where
  | finite (negative : Bool) (mantissa : Nat) (exponent : Int)
  | infinite (negative : Bool)
  | nan
  deriving DecidableEq, Repr, Inhabited

namespace Binary64

def zero (negative : Bool) : Binary64 := .finite negative 0 (-1074)

/-- The power `2 ^ e` as a numerator and a denominator. -/
def twoPower (e : Int) : Nat × Nat :=
  if 0 ≤ e then (Nat.pow 2 e.toNat, 1) else (1, Nat.pow 2 (-e).toNat)

/-- The quotient of two numbers rounded to the nearest whole number, ties to even. -/
def divideToEven (num den : Nat) : Nat :=
  let q := num / den
  let r := num % den
  if 2 * r < den then q
  else if den < 2 * r then q + 1
  else if q % 2 == 0 then q else q + 1

/-- The number of a sign nearest to the positive ratio `num / den`; the exponent is chosen so that
the mantissa has 53 bits where the range allows it. -/
def ofRatio (negative : Bool) (num den : Nat) : Binary64 :=
  if num == 0 then zero negative
  else
    let scaled (e : Int) : Nat × Nat :=
      let (up, down) := twoPower e
      (num * down, den * up)
    let guess : Int := max (-1074) ((num.log2 : Int) - (den.log2 : Int) - 53)
    let (n, d) := scaled guess
    let exponent := if Nat.pow 2 53 ≤ n / d then guess + 1 else guess
    let (n, d) := scaled exponent
    let mantissa := divideToEven n d
    let (mantissa, exponent) :=
      if mantissa == Nat.pow 2 53 then (Nat.pow 2 52, exponent + 1) else (mantissa, exponent)
    if 971 < exponent then .infinite negative else .finite negative mantissa exponent

/-- An exponent of two that the size of a positive number `digits · 10 ^ power` reaches, and one
that it stays below: ten lies between `2 ^ 3` and `2 ^ 4`. -/
def sizeBounds (digits : Nat) (power : Int) : Int × Int :=
  let size : Int := digits.log2
  if 0 ≤ power then (size + 3 * power, size + 1 + 4 * power)
  else (size + 4 * power, size + 1 + 3 * power)

/-- The number nearest to `digits · 10 ^ power`. -/
def ofDecimal (negative : Bool) (digits : Nat) (power : Int) : Binary64 :=
  let (least, below) := sizeBounds digits power
  if digits == 0 then zero negative
  -- far outside the range the ratio is not computed: its powers of ten could be of any size
  else if 1100 < least then .infinite negative
  else if below < -1100 then zero negative
  else if 0 ≤ power then ofRatio negative (digits * Nat.pow 10 power.toNat) 1
  else ofRatio negative digits (Nat.pow 10 (-power).toNat)

def ofInt (i : Int) : Binary64 := ofRatio (i < 0) i.natAbs 1

def neg : Binary64 → Binary64
  | .finite s m e => .finite (!s) m e
  | .infinite s => .infinite (!s)
  | .nan => .nan

/-- A finite number as a whole multiple of `2 ^ -1074`. -/
private def inUnits (negative : Bool) (m : Nat) (e : Int) : Int :=
  let size : Int := (m * Nat.pow 2 (e + 1074).toNat : Nat)
  if negative then -size else size

def add : Binary64 → Binary64 → Binary64
  | .nan, _ => .nan
  | _, .nan => .nan
  | .infinite s, .infinite t => if s == t then .infinite s else .nan
  | .infinite s, _ => .infinite s
  | _, .infinite t => .infinite t
  | .finite s m e, .finite t n f =>
    let sum := inUnits s m e + inUnits t n f
    if sum == 0 then zero (s && t)
    else ofRatio (sum < 0) sum.natAbs (Nat.pow 2 1074)

def mul : Binary64 → Binary64 → Binary64
  | .nan, _ => .nan
  | _, .nan => .nan
  | .infinite s, .infinite t => .infinite (s != t)
  | .infinite s, .finite t n _ => if n == 0 then .nan else .infinite (s != t)
  | .finite s m _, .infinite t => if m == 0 then .nan else .infinite (s != t)
  | .finite s m e, .finite t n f =>
    let (up, down) := twoPower (e + f)
    ofRatio (s != t) (m * n * up) down

def isZero : Binary64 → Bool
  | .finite _ m _ => m == 0
  | _ => false

/-- The whole part of a finite number, toward zero. -/
def truncate? : Binary64 → Option Int
  | .finite s m e =>
    let (up, down) := twoPower e
    let size : Int := (m * up / down : Nat)
    some (if s then -size else size)
  | _ => none

/-- The whole number that a finite number without a fraction equals. -/
def toInt? (x : Binary64) : Option Int :=
  match x with
  | .finite _ m e =>
    let (up, down) := twoPower e
    if m * up % down == 0 then x.truncate? else none
  | _ => none

/-- Numeric equality: the two zeros are equal and the not-a-number differs from itself. -/
def equal : Binary64 → Binary64 → Bool
  | .nan, _ => false
  | .finite s m e, .finite t n f =>
    if m == 0 then n == 0 else s == t && m == n && e == f
  | .infinite s, .infinite t => s == t
  | _, _ => false

end Binary64

end ServiceCli.Number
