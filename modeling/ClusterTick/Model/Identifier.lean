import ClusterTick.Json.Record
import ClusterTick.Model.Label
import ClusterTick.Text.Quoted
import ClusterTick.Text.Unsigned

/-!
# Identifiers

Numbers of tasks and snapshots, the wording of label faults, and the JSON forms
of all identifiers.  Task ids grow with submission, so a later attempt of a
chain has a greater id than an earlier one.
-/

namespace ClusterTick

/-- The number of a task row. -/
structure TaskId where
  value : UInt64
  deriving DecidableEq, Repr, Inhabited

/-- The number of a snapshot; a later snapshot has a greater one. -/
structure SnapshotSeq where
  value : UInt64
  deriving DecidableEq, Repr, Inhabited

/-- Why a text is no task id. -/
inductive TaskIdError where
  | empty
  | invalidNumber (text : String) (cause : Text.UnsignedError)
  deriving DecidableEq, Repr

namespace LabelError

/-- The fault in words, for a label of the given kind. -/
def message (kind : LabelKind) : LabelError → String
  | empty => "identifier cannot be empty"
  | invalidCharacter character =>
    "invalid character " ++ Text.quotedChar character ++ " in " ++
      kind.description
  | tooLong size =>
    kind.description ++ " too long: " ++ String.ofList (decimalDigits size) ++
      " > " ++ String.ofList (decimalDigits Label.maximumSize)

end LabelError

namespace Label

variable {kind : LabelKind}

instance : JsonForm (Label kind) where
  toJson label := .string label.text
  ofJson?
    | .string text => some ⟨text⟩
    | _ => none

/-- The label, or another one in place of an empty one. -/
def orDefault (label fallback : Label kind) : Label kind :=
  if label.isEmpty then fallback else label

end Label

namespace TaskIdError

def message : TaskIdError → String
  | empty => "identifier cannot be empty"
  | invalidNumber text cause =>
    "invalid numeric id: " ++ text ++ ": " ++ cause.message

end TaskIdError

namespace TaskId

instance : Ord TaskId := ⟨compareOn value⟩

instance : Std.TransOrd TaskId :=
  inferInstanceAs (Std.TransCmp (compareOn value))

instance : Std.LawfulEqOrd TaskId where
  compare_self {id} := Std.ReflOrd.compare_self (a := id.value)
  eq_of_compare {left right} h := by
    cases left
    cases right
    exact congrArg TaskId.mk (Std.LawfulEqOrd.eq_of_compare h)

instance : JsonForm TaskId where
  toJson id := JsonForm.toJson id.value
  ofJson? json := (JsonForm.ofJson? json).map TaskId.mk

def text (id : TaskId) : String := String.ofList (decimalDigits id.value.toNat)

/-- Reads a typed task id. -/
def parse (text : String) : Except TaskIdError TaskId :=
  if text.isEmpty then
    .error .empty
  else
    match Text.readUnsigned (UInt64.size - 1) text with
    | .ok value => .ok ⟨UInt64.ofNat value⟩
    | .error cause => .error (.invalidNumber text cause)

end TaskId

namespace SnapshotSeq

instance : JsonForm SnapshotSeq where
  toJson seq := JsonForm.toJson seq.value
  ofJson? json := (JsonForm.ofJson? json).map SnapshotSeq.mk

def text (seq : SnapshotSeq) : String :=
  String.ofList (decimalDigits seq.value.toNat)

/-- The number of the snapshot after this one. -/
def next (seq : SnapshotSeq) : SnapshotSeq := ⟨seq.value + 1⟩

end SnapshotSeq

end ClusterTick
