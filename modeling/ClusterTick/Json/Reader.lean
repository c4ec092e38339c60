import ClusterTick.Json.Basic
import ClusterTick.Json.Shape

/-!
# Reading JSON text

A strict reader: no comments, no trailing commas or text, no raw control
characters and no lone surrogates in strings, no numbers beyond the doubles,
and at most `maximumDepth` nested arrays and objects.  Recursion is on the
depth that is still allowed; the characters of one string and the items of one
array are bounded by the length of the whole text, which is measured once.

Members that the shape of the text does not name are passed over by a machine
with a stack of open brackets.  It checks the grammar and nothing else: any
surrogate, any number and any depth will do.
-/

namespace ClusterTick.Json

/-- The deepest nesting of arrays and objects that is read. -/
def maximumDepth : Nat := 127

/-- Blanks between tokens. -/
def isTokenBlank (c : Char) : Bool :=
  c == ' ' || c == '\n' || c == '\t' || c == '\r'

def skipBlanks (input : List Char) : List Char := input.dropWhile isTokenBlank

def hexDigit? (c : Char) : Option Nat :=
  if isDecimalDigit c then some (digitValue c)
  else if 'a' ≤ c ∧ c ≤ 'f' then some (c.toNat - 'a'.toNat + 10)
  else if 'A' ≤ c ∧ c ≤ 'F' then some (c.toNat - 'A'.toNat + 10)
  else none

/-- The code unit of a four-digit escape and the text after it. -/
def readHex4 : List Char → Option (Nat × List Char)
  | a :: b :: c :: d :: rest => do
    let a ← hexDigit? a
    let b ← hexDigit? b
    let c ← hexDigit? c
    let d ← hexDigit? d
    some (((a * 16 + b) * 16 + c) * 16 + d, rest)
  | _ => none

/-- A character written as `\u` escapes: one code unit, or a leading and a
trailing surrogate. -/
def readUnicodeEscape (input : List Char) : Option (Char × List Char) := do
  let (unit, rest) ← readHex4 input
  if unit < 0xD800 ∨ 0xE000 ≤ unit then
    some (Char.ofNat unit, rest)
  else if 0xDC00 ≤ unit then
    none
  else
    match rest with
    | '\\' :: 'u' :: rest => do
      let (trailing, rest) ← readHex4 rest
      if 0xDC00 ≤ trailing ∧ trailing < 0xE000 then
        some
          (Char.ofNat (0x10000 + (unit - 0xD800) * 0x400 + (trailing - 0xDC00)),
            rest)
      else
        none
    | _ => none

/-- The character of a one-letter escape. -/
def shortEscape? : Char → Option Char
  | '"' => some '"'
  | '\\' => some '\\'
  | '/' => some '/'
  | 'b' => some '\x08'
  | 'f' => some '\x0c'
  | 'n' => some '\n'
  | 'r' => some '\r'
  | 't' => some '\t'
  | _ => none

/-- The characters of a string up to its closing quote, and the text after
it. -/
def readStringBody : (fuel : Nat) → List Char → Option (List Char × List Char)
  | 0, _ => none
  | fuel + 1, input =>
    match input with
    | '"' :: rest => some ([], rest)
    | '\\' :: 'u' :: rest => do
      let (c, rest) ← readUnicodeEscape rest
      let (body, rest) ← readStringBody fuel rest
      some (c :: body, rest)
    | '\\' :: escape :: rest => do
      let c ← shortEscape? escape
      let (body, rest) ← readStringBody fuel rest
      some (c :: body, rest)
    | c :: rest =>
      if c.toNat < 32 then none
      else do
        let (body, rest) ← readStringBody fuel rest
        some (c :: body, rest)
    | [] => none

/-- A string whose opening quote has been read. -/
def readString (fuel : Nat) (input : List Char) :
    Option (String × List Char) := do
  let (body, rest) ← readStringBody fuel input
  some (String.ofList body, rest)

/-- A run of at least one digit and the text after it. -/
def readDigitRun (input : List Char) : Option (List Char × List Char) :=
  let digits := input.takeWhile isDecimalDigit
  if digits.isEmpty then none else some (digits, input.dropWhile isDecimalDigit)

/-- The digits before the point: a zero alone or a run that starts with another
digit. -/
def readWhole : List Char → Option (List Char × List Char)
  | '0' :: rest => some (['0'], rest)
  | input => readDigitRun input

/-- The digits after a point, none when there is no point. -/
def readFraction : List Char → Option (List Char × List Char)
  | '.' :: rest => readDigitRun rest
  | input => some ([], input)

/-- The power of ten after an exponent mark, `none` inside when there is no
mark. -/
def readPower : List Char → Option (Option Int × List Char)
  | c :: rest =>
    if c = 'e' ∨ c = 'E' then
      let (negative, rest) : Bool × List Char :=
        match rest with
        | '+' :: rest => (false, rest)
        | '-' :: rest => (true, rest)
        | rest => (false, rest)
      (readDigitRun rest).map fun (digits, rest) =>
        let power : Int := valueOfDigits digits
        (some (if negative then -power else power), rest)
    else
      some (none, c :: rest)
  | [] => some (none, [])

/-- The number that a literal denotes.  Whole numbers of the sixty-four-bit
ranges stay integers; a negative zero, larger numbers and numbers with a point
or an exponent are doubles. -/
def numberOf (literal : DecimalLiteral) (isWhole : Bool) : Option JsonNumber :=
  let value := valueOfDigits literal.whole
  if isWhole ∧ !literal.negative ∧ value < UInt64.size then
    some (.integer value)
  else if isWhole ∧ literal.negative ∧ 0 < value ∧
    Int64.minValue.toInt ≤ -(value : Int) then
    some (.integer (-(value : Int)))
  else
    literal.scaled?.map .double

/-- The digits of a number, and whether it has neither point nor exponent. -/
def readLiteral (input : List Char) :
    Option ((DecimalLiteral × Bool) × List Char) := do
  let (negative, input) : Bool × List Char :=
    match input with
    | '-' :: rest => (true, rest)
    | input => (false, input)
  let (whole, input) ← readWhole input
  let (fraction, input) ← readFraction input
  let (power, input) ← readPower input
  let isWhole := fraction.isEmpty && power.isNone
  some ((⟨negative, whole, fraction, power.getD 0⟩, isWhole), input)

def readNumber (input : List Char) : Option (JsonNumber × List Char) := do
  let ((literal, isWhole), rest) ← readLiteral input
  let value ← numberOf literal isWhole
  some (value, rest)

/-- The text after a string whose opening quote has been passed. -/
def passString : List Char → Option (List Char)
  | '"' :: rest => some rest
  | '\\' :: 'u' :: a :: b :: c :: d :: rest =>
    if [a, b, c, d].all fun digit => (hexDigit? digit).isSome then
      passString rest
    else
      none
  | '\\' :: escape :: rest =>
    if (shortEscape? escape).isSome then passString rest else none
  | c :: rest => if c.toNat < 32 then none else passString rest
  | [] => none

/-- The text after a key and its colon. -/
def passKey (input : List Char) : Option (List Char) :=
  match skipBlanks input with
  | '"' :: rest => do
    match skipBlanks (← passString rest) with
    | ':' :: rest => some rest
    | _ => none
  | _ => none

/-- The text after a value that holds no other value. -/
def passScalar : List Char → Option (List Char)
  | '"' :: rest => passString rest
  | 'n' :: 'u' :: 'l' :: 'l' :: rest => some rest
  | 't' :: 'r' :: 'u' :: 'e' :: rest => some rest
  | 'f' :: 'a' :: 'l' :: 's' :: 'e' :: rest => some rest
  | input => (readLiteral input).map (·.2)

/-- The brackets that are still open after those that are closed here, each
given by the bracket that closes it, and the text after these. -/
def passClosing : List Char → List Char → List Char × List Char
  | [], input => ([], input)
  | close :: closing, input =>
    match skipBlanks input with
    | c :: rest =>
      if c = close then passClosing closing rest
      else (close :: closing, c :: rest)
    | [] => (close :: closing, [])

/-- The text at the value of the next item in the innermost bracket: objects
have a key before it. -/
def passToItem (closing : List Char) (input : List Char) : Option (List Char) :=
  if closing.head? = some '\x7d' then passKey input else some input

/-- The brackets that are open and the text after a value and all that stands
before the next value: brackets that close, a comma, a key. -/
def passOn (closing : List Char) (input : List Char) :
    Option (List Char × List Char) :=
  match passClosing closing input with
  | ([], rest) => some ([], rest)
  | (closing, ',' :: rest) =>
    (passToItem closing rest).map fun rest => (closing, rest)
  | _ => none

/-- One step past a value: a scalar as a whole, an array or object up to its
first item. -/
def passToken (closing : List Char) (input : List Char) :
    Option (List Char × List Char) :=
  let enter (close : Char) (rest : List Char) :
      Option (List Char × List Char) :=
    if (skipBlanks rest).head? = some close then passOn (close :: closing) rest
    else
      (passToItem (close :: closing) rest).map fun rest =>
        (close :: closing, rest)
  match skipBlanks input with
  | '[' :: rest => enter ']' rest
  | '\x7b' :: rest => enter '\x7d' rest
  | input => (passScalar input).bind (passOn closing)

/-- The text after a value, of which only the outline is checked. -/
def passValue :
    (fuel : Nat) → (closing : List Char) → List Char → Option (List Char)
  | 0, _, _ => none
  | fuel + 1, closing, input =>
    match passToken closing input with
    | none => none
    | some ([], rest) => some rest
    | some (closing, rest) => passValue fuel closing rest

/-- The rest of a comma-separated list from the item with an index on, up to the
closing character. -/
def readSeparated {α : Type} (item : Nat → List Char → Option (α × List Char))
    (close : Char) :
    (fuel : Nat) → (index : Nat) → List Char → Option (List α × List Char)
  | 0, _, _ => none
  | fuel + 1, index, input => do
    let (value, rest) ← item index input
    match skipBlanks rest with
    | c :: rest =>
      if c = close then some ([value], rest)
      else if c = ',' then do
        let (values, rest) ← readSeparated item close fuel (index + 1) rest
        some (value :: values, rest)
      else none
    | [] => none

/-- A comma-separated list, possibly empty, whose opening character has been
read.  An item is read by its index. -/
def readList {α : Type} (fuel : Nat)
    (item : Nat → List Char → Option (α × List Char)) (close : Char)
    (input : List Char) : Option (List α × List Char) :=
  match skipBlanks input with
  | c :: rest =>
    if c = close then some ([], rest) else readSeparated item close fuel 0 input
  | [] => none

/-- A member of an object.  What stands after the colon is read by its key, or
passed over if there is no reader for the key. -/
def readMember {α : Type} (fuel : Nat)
    (value? : String → Option (List Char → Option (α × List Char)))
    (input : List Char) : Option (Option (String × α) × List Char) :=
  match skipBlanks input with
  | '"' :: rest => do
    let (key, rest) ← readString fuel rest
    match skipBlanks rest with
    | ':' :: rest =>
      match value? key with
      | some value =>
        (value rest).map fun (member, rest) => (some (key, member), rest)
      | none => (passValue fuel [] rest).map fun rest => (none, rest)
    | _ => none
  | _ => none

/-- A value of a shape with at most `depth` nested arrays and objects, and the
text after it.  Members that are passed over are left out. -/
def readValue (fuel : Nat) :
    (depth : Nat) → Shape → List Char → Option (Json × List Char)
  | depth, shape, input =>
    match skipBlanks input with
    | '"' :: rest =>
      (readString fuel rest).map fun (text, rest) => (.string text, rest)
    | '[' :: rest =>
      match depth with
      | 0 => none
      | depth + 1 =>
        (readList fuel (fun index => readValue fuel depth (shape.item index))
          ']' rest).map fun (items, rest) => (.array items, rest)
    | '\x7b' :: rest =>
      match depth with
      | 0 => none
      | depth + 1 =>
        let member :=
          readMember fuel fun key =>
            (shape.member? key).map (readValue fuel depth)
        (readList fuel (fun _ => member) '\x7d' rest).map fun (members, rest) =>
          (.object (members.filterMap id), rest)
    | 'n' :: 'u' :: 'l' :: 'l' :: rest => some (.null, rest)
    | 't' :: 'r' :: 'u' :: 'e' :: rest => some (.bool true, rest)
    | 'f' :: 'a' :: 'l' :: 's' :: 'e' :: rest => some (.bool false, rest)
    | other => (readNumber other).map fun (value, rest) => (.number value, rest)

/-- Reads a whole text as one value of a shape. -/
def parseShape? (shape : Shape) (text : String) : Option Json := do
  let input := text.toList
  let (value, rest) ← readValue (input.length + 1) maximumDepth shape input
  if (skipBlanks rest).isEmpty then some value else none

/-- Reads a whole text as one value. -/
def parse? (text : String) : Option Json := parseShape? .whole text

end ClusterTick.Json
