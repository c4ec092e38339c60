import ClusterTick.Numeric.Decimal

/-!
# Reading unsigned integers

Decimal digits after an optional plus sign.  The text is judged from left to
right, so of a bad digit and an overflow the one that comes first is reported.
-/

namespace ClusterTick.Text

/-- Why a text is no unsigned integer. -/
inductive UnsignedError where
  | empty
  | invalidDigit
  | tooLarge
  deriving DecidableEq, Repr

namespace UnsignedError

def message : UnsignedError → String
  | empty => "cannot parse integer from empty string"
  | invalidDigit => "invalid digit found in string"
  | tooLarge => "number too large to fit in target type"

end UnsignedError

/-- Reads further digits onto a value, refusing the first character that is no
digit and the first step beyond the limit. -/
def readDigits (limit : Nat) : Nat → List Char → Except UnsignedError Nat
  | value, [] => .ok value
  | value, c :: rest =>
    if isDecimalDigit c then
      let next := value * 10 + digitValue c
      if next ≤ limit then readDigits limit next rest else .error .tooLarge
    else
      .error .invalidDigit

/-- Reads a whole text as an unsigned integer of at most `limit`. -/
def readUnsigned (limit : Nat) (text : String) : Except UnsignedError Nat :=
  match text.toList with
  | [] => .error .empty
  | '+' :: [] => .error .invalidDigit
  | '+' :: digits => readDigits limit 0 digits
  | digits => readDigits limit 0 digits

end ClusterTick.Text
