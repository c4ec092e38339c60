/-!
# Double-precision numbers as bit patterns

A double is kept as its 64 bits, so equality is decidable and every operation
is exact natural-number arithmetic.  The one rounding function is `ofRatio`,
which takes a quotient of two naturals to the nearest double; reading a
decimal, converting an integer and scaling by a power of ten all go through it.
-/

namespace ClusterTick

/-- An IEEE 754 double, given by its bits: sign, eleven exponent bits and
fifty-two fraction bits. -/
structure Binary64 where
  bits : UInt64
  deriving DecidableEq, Repr, Inhabited

namespace Binary64

/-- The weight of the sign bit. -/
def signWeight : Nat := 9223372036854775808

/-- The weight of the bit that normal significands have in front of their
fraction. -/
def hiddenBit : Nat := 4503599627370496

/-- The magnitude bits of infinity; larger magnitudes are not numbers. -/
def infinityMagnitude : Nat := 2047 * hiddenBit

def isNegative (x : Binary64) : Bool := signWeight ≤ x.bits.toNat

/-- The bits without the sign. -/
def magnitude (x : Binary64) : Nat := x.bits.toNat % signWeight

def isFinite (x : Binary64) : Bool := x.magnitude < infinityMagnitude

def isZero (x : Binary64) : Bool := x.magnitude == 0

/-- The double with the given sign and magnitude bits. -/
def ofMagnitude (negative : Bool) (magnitude : Nat) : Binary64 :=
  ⟨UInt64.ofNat (magnitude + if negative then signWeight else 0)⟩

def zero : Binary64 := ofMagnitude false 0

def negate (x : Binary64) : Binary64 := ofMagnitude (!x.isNegative) x.magnitude

/-- The integer significand of a finite magnitude, whose value is
`significand * 2 ^ exponent`.  Subnormal magnitudes have no hidden bit. -/
def significand (x : Binary64) : Nat :=
  let fraction := x.magnitude % hiddenBit
  if x.magnitude < hiddenBit then fraction else fraction + hiddenBit

/-- The power of two that goes with `significand`. -/
def exponent (x : Binary64) : Int :=
  ((max (x.magnitude / hiddenBit) 1 : Nat) : Int) - 1075

/-- The magnitude of a finite double as an exact quotient of naturals. -/
def ratio (x : Binary64) : Nat × Nat :=
  if 0 ≤ x.exponent then
    (x.significand * Nat.pow 2 x.exponent.toNat, 1)
  else
    (x.significand, Nat.pow 2 (-x.exponent).toNat)

/-- A quotient rounded to the nearest natural, a half going to the even one. -/
def roundHalfEven (numerator denominator : Nat) : Nat :=
  let quotient := numerator / denominator
  let rest := numerator % denominator
  if denominator < 2 * rest ∨ (2 * rest = denominator ∧ quotient % 2 = 1) then
    quotient + 1
  else
    quotient

/-- The exponent `e` with `2 ^ e ≤ numerator / denominator < 2 ^ (e + 1)`, for
positive arguments. -/
def binaryExponent (numerator denominator : Nat) : Int :=
  let guess : Int := (Nat.log2 numerator : Int) - (Nat.log2 denominator : Int)
  let reached :=
    if 0 ≤ guess then denominator * Nat.pow 2 guess.toNat ≤ numerator
    else denominator ≤ numerator * Nat.pow 2 (-guess).toNat
  if reached then guess else guess - 1

/-- The double nearest to a quotient, ties to the even significand, infinity
beyond the largest finite double.  A carry out of the significand runs into the
exponent field, which is exactly the next power of two. -/
def ofRatio (numerator denominator : Nat) : Binary64 :=
  if numerator = 0 then
    zero
  else
    let unit := max (binaryExponent numerator denominator - 52) (-1074)
    let rounded :=
      if 0 ≤ unit then
        roundHalfEven numerator (denominator * Nat.pow 2 unit.toNat)
      else roundHalfEven (numerator * Nat.pow 2 (-unit).toNat) denominator
    ofMagnitude false
      (min ((unit + 1074).toNat * hiddenBit + rounded) infinityMagnitude)

/-- The double nearest to a natural. -/
def ofNat (value : Nat) : Binary64 := ofRatio value 1

/-- The double nearest to an integer. -/
def ofInt (value : Int) : Binary64 :=
  if value < 0 then (ofNat value.natAbs).negate else ofNat value.natAbs

/-- The double nearest to a power of ten. -/
def powerOfTen (power : Nat) : Binary64 := ofNat (Nat.pow 10 power)

/-- The rounded product of two finite magnitudes. -/
def multiply (left right : Binary64) : Binary64 :=
  ofRatio (left.ratio.1 * right.ratio.1) (left.ratio.2 * right.ratio.2)

/-- The rounded quotient of two finite magnitudes, the second one positive. -/
def divide (left right : Binary64) : Binary64 :=
  ofRatio (left.ratio.1 * right.ratio.2) (left.ratio.2 * right.ratio.1)

/-- Position in the total order of bit patterns: negative numbers by falling
magnitude, then positive numbers by rising magnitude.  It separates the two
zeros and places numbers that are not finite at the ends. -/
def totalKey (x : Binary64) : Nat :=
  if x.isNegative then signWeight - 1 - x.magnitude
  else signWeight + x.magnitude

/-- Whether a finite or infinite double lies between zero and one, ends
included.  Numbers that are not numbers do not. -/
def isShare (x : Binary64) : Bool :=
  if x.isNegative then x.isZero else x.magnitude ≤ (ofNat 1).magnitude

end Binary64

end ClusterTick
