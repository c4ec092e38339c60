import ClusterTick.Text.CharClass

/-!
# Labels

Names of nodes, groups, users and chains.  The kinds share one type that is
indexed by the kind, so a group name cannot stand where a node name is due.
Records accept every text as a label; `Label.parse` is the strict reading of
text that a person typed.
-/

namespace ClusterTick

/-- What a label names. -/
inductive LabelKind where
  | node
  | group
  | user
  | chain
  deriving DecidableEq, Repr

namespace LabelKind

/-- The kind in words, as error messages name it. -/
def description : LabelKind → String
  | node => "node name"
  | group => "group name"
  | user => "user name"
  | chain => "chain id"

end LabelKind

/-- A label of one kind. -/
structure Label (kind : LabelKind) where
  text : String
  deriving DecidableEq, Repr, Inhabited

abbrev NodeName := Label .node

abbrev GroupName := Label .group

abbrev UserName := Label .user

abbrev ChainId := Label .chain

/-- Why a text is no label of a kind. -/
inductive LabelError where
  | empty
  | invalidCharacter (character : Char)
  | tooLong (size : Nat)
  deriving DecidableEq, Repr

namespace Label

variable {kind : LabelKind}

/-- The largest size of a label in bytes. -/
def maximumSize : Nat := 253

def isEmpty (label : Label kind) : Bool := label.text.isEmpty

/-- Membership of labels is decided by comparing them. -/
instance : LawfulBEq (Label kind) := inferInstance

instance : Ord (Label kind) where
  compare left right := compare left.text right.text

instance : Std.TransOrd (Label kind) where
  eq_swap {left right} :=
    Std.OrientedOrd.eq_swap (a := left.text) (b := right.text)
  isLE_trans {left middle right} hleft hright :=
    Std.TransOrd.isLE_trans (a := left.text) (b := middle.text)
      (c := right.text) hleft hright

instance : Std.LawfulEqOrd (Label kind) where
  compare_self {label} := Std.ReflOrd.compare_self (a := label.text)
  eq_of_compare {left right} h := by
    cases left
    cases right
    exact congrArg Label.mk (Std.LawfulEqOrd.eq_of_compare h)

/-- Reads a text as a label.  It must not be empty, nor larger than
`maximumSize`, nor hold a blank or a control character; the faults are looked
for in that order. -/
def parse (kind : LabelKind) (text : String) : Except LabelError (Label kind) :=
  if text.isEmpty then
    .error .empty
  else if maximumSize < text.utf8ByteSize then
    .error (.tooLong text.utf8ByteSize)
  else
    match text.toList.find? fun c => Text.isBlank c || Text.isControl c with
    | some c => .error (.invalidCharacter c)
    | none => .ok ⟨text⟩

end Label

end ClusterTick
