import ClusterTick.Hash.Sha256
import ClusterTick.Json.Basic

/-!
# Canonical form and digest of JSON values

The canonical form writes members in key order and without blanks, so it does
not depend on the order in which an object was built.  Strings escape quotes,
backslashes and every control character, which keeps the form uniquely
readable.  A digest is the first half of the SHA-256 hash of the canonical
form.
-/

namespace ClusterTick.Json

/-- A character inside a canonical string. -/
def canonicalChar (c : Char) : List Char :=
  match c with
  | '"' => ['\\', '"']
  | '\\' => ['\\', '\\']
  | '\n' => ['\\', 'n']
  | '\r' => ['\\', 'r']
  | '\t' => ['\\', 't']
  | c =>
    if c.toNat < 32 ∨ (127 ≤ c.toNat ∧ c.toNat < 160) then
      '\\' :: 'u' :: hexCode c.toNat
    else
      [c]

def canonicalString (text : String) : List Char :=
  '"' :: text.toList.flatMap canonicalChar ++ ['"']

/-- Members in key order; members of one key keep their order. -/
def sortedMembers {α : Type} (members : List (String × α)) :
    List (String × α) :=
  members.mergeSort fun left right => left.1 ≤ right.1

/-- Canonical members between commas, each with its written value. -/
def joinMembers : List (String × List Char) → List Char
  | [] => []
  | [(key, value)] => canonicalString key ++ ':' :: value
  | (key, value) :: rest =>
    canonicalString key ++ ':' :: value ++ ',' :: joinMembers rest

/-- Canonical items between commas. -/
def joinItems : List (List Char) → List Char
  | [] => []
  | [item] => item
  | item :: rest => item ++ ',' :: joinItems rest

mutual

/-- The canonical form of a value: no blanks, members in key order. -/
def canonicalChars : Json → List Char
  | null => "null".toList
  | bool value => if value then "true".toList else "false".toList
  | number value => value.text
  | string text => canonicalString text
  | array items => '[' :: joinItems (canonicalItems items) ++ [']']
  | object members =>
    '\x7b' :: joinMembers (sortedMembers (canonicalMembers members)) ++ ['\x7d']

def canonicalItems : List Json → List (List Char)
  | [] => []
  | item :: rest => canonicalChars item :: canonicalItems rest

def canonicalMembers : List (String × Json) → List (String × List Char)
  | [] => []
  | (key, value) :: rest => (key, canonicalChars value) :: canonicalMembers rest

end

def canonical (value : Json) : String := String.ofList (canonicalChars value)

/-- Members with pairwise distinct keys: of a repeated key the last member is
kept. -/
def lastMembers : List (String × Json) → List (String × Json)
  | [] => []
  | (key, value) :: rest =>
    if rest.any (·.1 = key) then lastMembers rest
    else (key, value) :: lastMembers rest

mutual

/-- A value as its text means it when a later member replaces an earlier one of
the same key. -/
def withLastMembers : Json → Json
  | array items => array (withLastMembersItems items)
  | object members => object (lastMembers (withLastMembersList members))
  | scalar => scalar

def withLastMembersItems : List Json → List Json
  | [] => []
  | item :: rest => withLastMembers item :: withLastMembersItems rest

def withLastMembersList : List (String × Json) → List (String × Json)
  | [] => []
  | (key, value) :: rest =>
    (key, withLastMembers value) :: withLastMembersList rest

end

/-- The two hexadecimal digits of a byte. -/
def hexByte (byte : UInt8) : List Char :=
  (hexCode byte.toNat).drop 2

/-- The digest of a value: the method's name and the first sixteen bytes of the
hash of its canonical form. -/
def digest (value : Json) : String :=
  let bytes := (Sha256.hash (canonical value).toUTF8.toList).take 16
  String.ofList ("sha256:".toList ++ bytes.flatMap hexByte)

end ClusterTick.Json
