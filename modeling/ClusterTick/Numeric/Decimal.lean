import ClusterTick.Numeric.Binary64

/-!
# Decimal text of doubles

Two directions.  `Binary64.text` writes the fewest digits that read back to the
same double, positionally for moderate sizes and with an exponent outside them.
`DecimalLiteral.scaled?` and `DecimalLiteral.nearest` read a decimal: the first
keeps the leading digits that fit sixty-four bits and scales them by one rounded
multiplication or division, the second rounds the exact value once.
-/

namespace ClusterTick

/-- The digit characters of a natural, most significant first. -/
def decimalDigits (value : Nat) : List Char := Nat.toDigits 10 value

def isDecimalDigit (c : Char) : Bool := '0' ≤ c ∧ c ≤ '9'

def digitValue (c : Char) : Nat := c.toNat - '0'.toNat

/-- The value of a run of digits. -/
def valueOfDigits (digits : List Char) : Nat :=
  digits.foldl (fun value c => value * 10 + digitValue c) 0

/-- The digits of an integer, with a minus sign in front of a negative one. -/
def integerText (value : Int) : List Char :=
  if value < 0 then '-' :: decimalDigits value.natAbs
  else decimalDigits value.natAbs

namespace Binary64

/-- Digits of a decimal and the place of its point: the value is
`0.d₁d₂… * 10 ^ point`. -/
structure Digits where
  digits : List Char
  point : Int
  deriving DecidableEq, Repr

/-- Whether a grid point `steps * 10 ^ place` lies in the interval of reals that
round to a double.  The interval is given in quarters of the double's unit; its
ends belong to it exactly when the significand is even. -/
def roundsBack (x : Binary64) (steps : Nat) (place : Int) : Bool :=
  let quarter := x.exponent - 2
  let below :=
    if x.significand = hiddenBit ∧ 2 * hiddenBit ≤ x.magnitude then 1 else 2
  let low := 4 * x.significand - below
  let high := 4 * x.significand + 2
  -- Both sides are brought to one common power of two and one of ten.
  let point := steps * (if 0 ≤ place then Nat.pow 10 place.toNat else 1) *
    (if 0 ≤ quarter then 1 else Nat.pow 2 (-quarter).toNat)
  let scale := (if 0 ≤ place then 1 else Nat.pow 10 (-place).toNat) *
    (if 0 ≤ quarter then Nat.pow 2 quarter.toNat else 1)
  if x.significand % 2 = 0 then
    low * scale ≤ point ∧ point ≤ high * scale
  else
    low * scale < point ∧ point < high * scale

/-- The exponent `e` with `10 ^ (e - 1) ≤ value < 10 ^ e`, for a positive
quotient, searched upward from below. -/
def decimalExponent (numerator denominator : Nat) : (fuel : Nat) → Int → Int
  | 0, guess => guess
  | fuel + 1, guess =>
    let reached :=
      if 0 ≤ guess then denominator * Nat.pow 10 guess.toNat ≤ numerator
      else denominator ≤ numerator * Nat.pow 10 (-guess).toNat
    if reached then decimalExponent numerator denominator fuel (guess + 1)
    else guess

/-- The grid point of `count` digits that is nearest to the double among those
that read back to it, if there is one. -/
def nearestOnGrid? (x : Binary64) (point : Int) (count : Nat) : Option Digits :=
  let place := point - count
  let (numerator, denominator) := x.ratio
  let numerator :=
    numerator * (if 0 ≤ place then 1 else Nat.pow 10 (-place).toNat)
  let denominator :=
    denominator * (if 0 ≤ place then Nat.pow 10 place.toNat else 1)
  let low := numerator / denominator
  let nearest := roundHalfEven numerator denominator
  let other := if nearest = low then low + 1 else low
  let digitsOf (steps : Nat) : Digits :=
    let digits := decimalDigits steps
    ⟨digits, place + digits.length⟩
  if roundsBack x nearest place then some (digitsOf nearest)
  else if roundsBack x other place then some (digitsOf other)
  else none

/-- Without zeros at the end, keeping at least one digit. -/
def Digits.trimmed (value : Digits) : Digits :=
  let kept := (value.digits.reverse.dropWhile (· == '0')).reverse
  ⟨if kept.isEmpty then ['0'] else kept, value.point⟩

/-- The shortest decimal that reads back to a positive finite double; of two
equally short ones the nearer. -/
def shortest (x : Binary64) : Digits :=
  let (numerator, denominator) := x.ratio
  let point := decimalExponent numerator denominator 700 (-330)
  let found :=
    (List.range 17).findSome? fun index => nearestOnGrid? x point (index + 1)
  (found.getD ⟨decimalDigits x.significand, 0⟩).trimmed

/-- Positional for `-4 ≤ point ≤ 16`, always with a point; otherwise one digit
before the point and a signed exponent. -/
def Digits.text (value : Digits) : List Char :=
  let count : Int := value.digits.length
  if -4 ≤ value.point ∧ value.point ≤ 16 then
    if value.point ≤ 0 then
      ['0', '.'] ++ List.replicate (-value.point).toNat '0' ++ value.digits
    else if count ≤ value.point then
      value.digits ++ List.replicate (value.point - count).toNat '0' ++
        ['.', '0']
    else
      value.digits.take value.point.toNat ++
        '.' :: value.digits.drop value.point.toNat
  else
    let power := value.point - 1
    let sign := if power < 0 then '-' else '+'
    value.digits.take 1 ++
      (if value.digits.length ≤ 1 then [] else '.' :: value.digits.drop 1) ++
      'e' :: sign :: decimalDigits power.natAbs

/-- The text of a finite double. -/
def text (x : Binary64) : List Char :=
  let sign := if x.isNegative then ['-'] else []
  if x.isZero then sign ++ ['0', '.', '0'] else sign ++ x.shortest.text

end Binary64

/-- A decimal as written: digits before and after the point and a power of
ten. -/
structure DecimalLiteral where
  negative : Bool
  whole : List Char
  fraction : List Char
  power : Int
  deriving DecidableEq, Repr

namespace DecimalLiteral

/-- The largest sixty-four-bit natural. -/
def significandLimit : Nat := UInt64.size - 1

/-- Takes digits onto a significand while it stays within sixty-four bits.
Returns the significand and how many digits were left over. -/
def absorb : Nat → List Char → Nat × Nat
  | significand, [] => (significand, 0)
  | significand, c :: rest =>
    let next := significand * 10 + digitValue c
    if next ≤ significandLimit then absorb next rest
    else (significand, rest.length + 1)

/-- Scales a non-negative double by a power of ten with one rounding, after
whole steps of `10 ^ 308` for the smallest powers.  `none` when the result is
too large. -/
def scale (value : Binary64) (power : Int) : Option Binary64 :=
  if 308 < power then
    if value.isZero then some value else none
  else if 0 ≤ power then
    let result := value.multiply (Binary64.powerOfTen power.toNat)
    if result.isFinite then some result else none
  else if -308 ≤ power then
    some (value.divide (Binary64.powerOfTen (-power).toNat))
  else if value.isZero then
    some value
  else
    scale (value.divide (Binary64.powerOfTen 308)) (power + 308)
  termination_by (-power).toNat
  decreasing_by omega

/-- Reads a decimal from its leading digits: those that fit sixty-four bits form
the significand, which is rounded to a double and scaled once.  `none` when the
decimal is too large for a double. -/
def scaled? (literal : DecimalLiteral) : Option Binary64 :=
  let (whole, dropped) := absorb 0 literal.whole
  let (significand, unread) := absorb whole literal.fraction
  let used := literal.fraction.length - unread
  let power : Int := dropped - used + literal.power
  (scale (Binary64.ofNat significand) power).map fun value =>
    if literal.negative then value.negate else value

/-- The double nearest to the exact value of a decimal; infinite when it is too
large.  Powers of ten beyond every double are cut off first, which changes
nothing once the digits are counted. -/
def nearest (literal : DecimalLiteral) : Binary64 :=
  let digits := literal.whole ++ literal.fraction
  let significand := valueOfDigits digits
  let power := literal.power - literal.fraction.length
  let bound : Int := 400 + digits.length
  let power := max (-bound) (min bound power)
  let value :=
    if 0 ≤ power then Binary64.ofRatio (significand * Nat.pow 10 power.toNat) 1
    else Binary64.ofRatio significand (Nat.pow 10 (-power).toNat)
  if literal.negative then value.negate else value

end DecimalLiteral

end ClusterTick
