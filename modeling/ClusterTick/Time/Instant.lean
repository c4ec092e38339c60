import ClusterTick.Numeric.Decimal
import ClusterTick.Text.CharClass
import ClusterTick.Time.Calendar

/-!
# Instants and spans

An instant is a number of nanoseconds since the start of 1970 in UTC; a span is
a number of nanoseconds.  Instants are written as RFC 3339 in UTC with the
fewest fraction digits, in groups of three, that are exact.  The reader is
lenient about blanks between the parts and the digits of a part, but an offset
is required.
-/

namespace ClusterTick

/-- A point in time, in nanoseconds since the start of 1970 in UTC. -/
structure Instant where
  nanoseconds : Int
  deriving DecidableEq, Repr, Inhabited

/-- A length of time in nanoseconds. -/
structure Span where
  nanoseconds : Nat
  deriving DecidableEq, Repr, Inhabited

namespace Span

def perSecond : Nat := 1000000000

def zero : Span := ⟨0⟩

def ofMilliseconds (milliseconds : Nat) : Span := ⟨milliseconds * 1000000⟩

/-- Whole seconds. -/
def seconds (span : Span) : Nat := span.nanoseconds / perSecond

/-- Nanoseconds beyond the whole seconds. -/
def subsecond (span : Span) : Nat := span.nanoseconds % perSecond

instance : Add Span :=
  ⟨fun left right => ⟨left.nanoseconds + right.nanoseconds⟩⟩

/-- The mean of a positive number of spans with the given sum. -/
def dividedBy (span : Span) (count : Nat) : Span := ⟨span.nanoseconds / count⟩

end Span

/-- Digits with zeros in front up to a width. -/
def paddedDigits (width value : Nat) : List Char :=
  let digits := decimalDigits value
  List.replicate (width - digits.length) '0' ++ digits

namespace Instant

/-- The time from an earlier instant to a later one, zero when they are the
other way round. -/
def elapsedSince (later earlier : Instant) : Span :=
  ⟨(later.nanoseconds - earlier.nanoseconds).toNat⟩

def earlier (left right : Instant) : Instant :=
  if left.nanoseconds ≤ right.nanoseconds then left else right

/-- A year: four digits, with a sign outside the years 0 to 9999. -/
def yearText (year : Int) : List Char :=
  if 0 ≤ year ∧ year ≤ 9999 then paddedDigits 4 year.toNat
  else (if year < 0 then '-' else '+') :: paddedDigits 4 year.natAbs

/-- The fraction of a second in the fewest groups of three digits. -/
def fractionText (nanoseconds : Nat) : List Char :=
  if nanoseconds = 0 then []
  else if nanoseconds % 1000000 = 0 then
    '.' :: paddedDigits 3 (nanoseconds / 1000000)
  else if nanoseconds % 1000 = 0 then '.' :: paddedDigits 6 (nanoseconds / 1000)
  else '.' :: paddedDigits 9 nanoseconds

/-- An instant as RFC 3339 text in UTC. -/
def text (instant : Instant) : String :=
  let perSecond : Int := Span.perSecond
  let nanosecond := (instant.nanoseconds % perSecond).toNat
  let second := instant.nanoseconds / perSecond
  let date := CivilDate.ofDayNumber (second / 86400)
  let secondOfDay := (second % 86400).toNat
  String.ofList (yearText date.year ++ '-' :: paddedDigits 2 date.month ++
    '-' :: paddedDigits 2 date.day ++
    'T' :: paddedDigits 2 (secondOfDay / 3600) ++
    ':' :: paddedDigits 2 (secondOfDay / 60 % 60) ++
    ':' :: paddedDigits 2 (secondOfDay % 60) ++ fractionText nanosecond ++
    ['Z'])

/-- A number of one up to `width` digits after blanks. -/
def readField (width : Nat) (input : List Char) : Option (Nat × List Char) :=
  let input := Text.dropBlanks input
  let digits := (input.take width).takeWhile isDecimalDigit
  if digits.isEmpty then none
  else some (valueOfDigits digits, input.drop digits.length)

/-- A year after blanks: four digits at most, or any number of them after a
sign. -/
def readYear (input : List Char) : Option (Int × List Char) :=
  match Text.dropBlanks input with
  | '-' :: rest =>
    if rest.head?.any isDecimalDigit then
      (readField rest.length rest).map fun (year, rest) => (-(year : Int), rest)
    else none
  | '+' :: rest =>
    if rest.head?.any isDecimalDigit then
      (readField rest.length rest).map fun (year, rest) => ((year : Int), rest)
    else none
  | rest => (readField 4 rest).map fun (year, rest) => ((year : Int), rest)

/-- The text after blanks and one given character. -/
def readMark (mark : Char) (input : List Char) : Option (List Char) :=
  match Text.dropBlanks input with
  | c :: rest => if c = mark then some rest else none
  | [] => none

/-- A fraction of a second in nanoseconds; digits beyond the ninth are
dropped. -/
def readFraction (input : List Char) : Option (Nat × List Char) :=
  match input with
  | '.' :: rest =>
    let digits := rest.takeWhile isDecimalDigit
    if digits.isEmpty then none
    else
      let kept := digits.take 9
      some (valueOfDigits kept * Nat.pow 10 (9 - kept.length),
        rest.drop digits.length)
  | rest => some (0, rest)

/-- The two digits of a part of an offset. -/
def readPair : List Char → Option (Nat × List Char)
  | tens :: units :: rest =>
    if isDecimalDigit tens ∧ isDecimalDigit units then
      some (digitValue tens * 10 + digitValue units, rest)
    else none
  | _ => none

/-- The offset from UTC in seconds: `Z`, the name `UTC`, or a sign, hours and
minutes with colons or blanks between them. -/
def readOffset (input : List Char) : Option (Int × List Char) :=
  let signed (negative : Bool) (rest : List Char) :
      Option (Int × List Char) := do
    let (hours, rest) ← readPair rest
    let (minutes, rest) ←
      readPair (rest.dropWhile fun c => c == ':' || Text.isBlank c)
    let seconds : Int := hours * 3600 + minutes * 60
    if minutes < 60 ∧
      seconds < 86400 then some (if negative then -seconds else seconds, rest)
    else none
  match input with
  | 'Z' :: rest => some (0, rest)
  | 'z' :: rest => some (0, rest)
  | '+' :: rest => signed false rest
  | '-' :: rest => signed true rest
  | '−' :: rest => signed true rest
  | u :: t :: c :: rest =>
    if u.toLower = 'u' ∧ t.toLower = 't' ∧ c.toLower = 'c' then some (0, rest)
    else none
  | _ => none

/-- Reads an instant: date, a separator, time of day and offset.  Both the date
as written and the date in UTC must be among those that dates are kept for. -/
def read? (text : String) : Option Instant := do
  let (year, rest) ← readYear text.toList
  let rest ← readMark '-' rest
  let (month, rest) ← readField 2 rest
  let rest ← readMark '-' rest
  let (day, rest) ← readField 2 rest
  let rest ← match rest with
    | c :: rest => if c = 'T' ∨ c = 't' ∨ c = ' ' then some rest else none
    | [] => none
  let (hour, rest) ← readField 2 rest
  let rest ← readMark ':' rest
  let (minute, rest) ← readField 2 rest
  let rest ← readMark ':' rest
  let (second, rest) ← readField 2 rest
  let (nanosecond, rest) ← readFraction rest
  let (offset, rest) ← readOffset (Text.dropBlanks rest)
  let date : CivilDate := ⟨year, month, day⟩
  if (Text.dropBlanks rest).isEmpty ∧ date.isValid ∧ hour < 24 ∧ minute < 60 ∧
    second ≤ 60 then
    let wallClock : Int :=
      date.dayNumber * 86400 + hour * 3600 + minute * 60 + second
    let second := wallClock - offset
    if (CivilDate.ofDayNumber (second / 86400)).isValid then
      some ⟨second * Span.perSecond + nanosecond⟩
    else
      none
  else
    none

end Instant

end ClusterTick
