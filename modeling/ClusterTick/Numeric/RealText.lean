import ClusterTick.Numeric.Decimal

/-!
# Reading doubles that people type

A decimal with an optional sign, point and exponent, or one of the words for
infinity and for what is not a number, in any case of letters.
-/

namespace ClusterTick.Binary64

def infinity : Binary64 := ofMagnitude false infinityMagnitude

def notANumber : Binary64 :=
  ofMagnitude false (infinityMagnitude + hiddenBit / 2)

/-- The doubles with a name. -/
def named? (word : String) : Option Binary64 :=
  match word.toLower with
  | "inf" => some infinity
  | "infinity" => some infinity
  | "nan" => some notANumber
  | _ => none

/-- The sign in front of a text, true for a minus, and the text behind it. -/
def takeSign : List Char → Bool × List Char
  | '-' :: rest => (true, rest)
  | '+' :: rest => (false, rest)
  | rest => (false, rest)

/-- The power of ten behind the digits; nothing means zero. -/
def readPower? : List Char → Option Int
  | [] => some 0
  | mark :: rest =>
    let (negative, digits) := takeSign rest
    if (mark = 'e' ∨ mark = 'E') ∧ digits ≠ [] ∧ digits.all isDecimalDigit then
      let power : Int := valueOfDigits digits
      some (if negative then -power else power)
    else
      none

/-- Reads digits with at most one point among them and an exponent. -/
def readMagnitude? (text : List Char) : Option Binary64 :=
  let whole := text.takeWhile isDecimalDigit
  let rest := text.dropWhile isDecimalDigit
  let (fraction, rest) :=
    match rest with
    | '.' :: rest =>
      (rest.takeWhile isDecimalDigit, rest.dropWhile isDecimalDigit)
    | rest => ([], rest)
  if whole = [] ∧ fraction = [] then
    none
  else
    (readPower? rest).map fun power =>
      DecimalLiteral.nearest ⟨false, whole, fraction, power⟩

/-- Reads a whole text as a double. -/
def read? (text : String) : Option Binary64 :=
  let (negative, rest) := takeSign text.toList
  let value := (named? (String.ofList rest)).or (readMagnitude? rest)
  value.map fun value => if negative then value.negate else value

end ClusterTick.Binary64
