import ClusterTick.Numeric.Decimal

/-!
# JSON values and their written forms

A value keeps the order of its members and, as read, also repeated keys.  Two
written forms are defined here: `compact` without blanks and `pretty` with two
blanks of indentation.  The canonical form has a module of its own.
-/

namespace ClusterTick

/-- A JSON number: an integer of the signed or unsigned sixty-four-bit range
when read, any other number as a double. -/
inductive JsonNumber where
  | integer (value : Int)
  | double (value : Binary64)
  deriving DecidableEq, Repr, Inhabited

inductive Json where
  | null
  | bool (value : Bool)
  | number (value : JsonNumber)
  | string (text : String)
  | array (items : List Json)
  | object (members : List (String × Json))
  deriving Repr, Inhabited

namespace JsonNumber

def text : JsonNumber → List Char
  | integer value => integerText value
  | double value => value.text

end JsonNumber

namespace Json

def ofNat (value : Nat) : Json := number (.integer value)

def ofInt (value : Int) : Json := number (.integer value)

/-- The four hexadecimal digits of a code below `2 ^ 16`. -/
def hexCode (code : Nat) : List Char :=
  let digits := Nat.toDigits 16 code
  List.replicate (4 - digits.length) '0' ++ digits

/-- A character inside a JSON string: quotes, backslashes and the controls of
the ASCII range are escaped, by their short names where they have one. -/
def escapedChar (c : Char) : List Char :=
  match c with
  | '"' => ['\\', '"']
  | '\\' => ['\\', '\\']
  | '\n' => ['\\', 'n']
  | '\r' => ['\\', 'r']
  | '\t' => ['\\', 't']
  | '\x08' => ['\\', 'b']
  | '\x0c' => ['\\', 'f']
  | c => if c.toNat < 32 then '\\' :: 'u' :: hexCode c.toNat else [c]

def quoted (text : String) : List Char :=
  '"' :: text.toList.flatMap escapedChar ++ ['"']

/-- The written form of a value that holds no other value. -/
def scalarText : Json → List Char
  | null => "null".toList
  | bool true => "true".toList
  | bool false => "false".toList
  | number value => value.text
  | string text => quoted text
  | array _ => []
  | object _ => []

mutual

/-- The compact form of a value. -/
def compactChars : Json → List Char
  | array items => '[' :: compactItems items ++ [']']
  | object members => '\x7b' :: compactMembers members ++ ['\x7d']
  | scalar => scalarText scalar

def compactItems : List Json → List Char
  | [] => []
  | [item] => compactChars item
  | item :: rest => compactChars item ++ ',' :: compactItems rest

def compactMembers : List (String × Json) → List Char
  | [] => []
  | [(key, value)] => quoted key ++ ':' :: compactChars value
  | (key, value) :: rest =>
    quoted key ++ ':' :: compactChars value ++ ',' :: compactMembers rest

end

/-- A value on one line without blanks. -/
def compact (value : Json) : String := String.ofList (compactChars value)

/-- A line break followed by the indentation of a nesting depth. -/
def newLine (depth : Nat) : List Char := '\n' :: List.replicate (2 * depth) ' '

mutual

/-- The indented form of a value that stands at a nesting depth.  Empty arrays
and objects stay on one line. -/
def prettyChars (depth : Nat) : Json → List Char
  | array [] => ['[', ']']
  | array items =>
    '[' :: prettyItems (depth + 1) items ++ newLine depth ++ [']']
  | object [] => ['\x7b', '\x7d']
  | object members =>
    '\x7b' :: prettyMembers (depth + 1) members ++ newLine depth ++ ['\x7d']
  | scalar => scalarText scalar

def prettyItems (depth : Nat) : List Json → List Char
  | [] => []
  | [item] => newLine depth ++ prettyChars depth item
  | item :: rest =>
    newLine depth ++ prettyChars depth item ++ ',' :: prettyItems depth rest

def prettyMembers (depth : Nat) : List (String × Json) → List Char
  | [] => []
  | [(key, value)] =>
    newLine depth ++ quoted key ++ ':' :: ' ' :: prettyChars depth value
  | (key, value) :: rest =>
    newLine depth ++ quoted key ++ ':' :: ' ' :: prettyChars depth value ++
      ',' :: prettyMembers depth rest

end

/-- A value on indented lines. -/
def pretty (value : Json) : String := String.ofList (prettyChars 0 value)

/-- The member with a key, the first one if the key is repeated. -/
def member? (key : String) : Json → Option Json
  | object members => (members.find? fun entry => entry.1 = key).map (·.2)
  | _ => none

end Json

end ClusterTick
