import ClusterTick.Model.Identifier
import ClusterTick.Model.PriorityTier
import ClusterTick.Text.Split

/-!
# Quota keys

A quota entry grants nodes to the tasks of one group and tier.  Its key reads
`node-GROUP-TIER`, or `node_limit-GROUP-TIER` for a cap on the grant.  A group
name may hold dashes itself, so the kind ends at the first dash and the tier
starts after the last one.
-/

namespace ClusterTick

/-- What a quota entry says about a group and tier. -/
inductive QuotaKind where
  /-- Nodes that may be held at the same time. -/
  | node
  /-- A cap on that number. -/
  | nodeLimit
  deriving DecidableEq, Repr, Inhabited

namespace QuotaKind

/-- The word that a key of this kind starts with. -/
def word : QuotaKind → String
  | node => "node"
  | nodeLimit => "node_limit"

/-- The kind whose word a text is. -/
def ofWord? (text : String) : Option QuotaKind :=
  [node, nodeLimit].find? fun kind => kind.word = text

/-- Order of the kinds among quota keys. -/
def position : QuotaKind → Nat
  | node => 0
  | nodeLimit => 1

end QuotaKind

/-- What quota is counted for: the tasks of one tier in one group. -/
structure QuotaSlot where
  group : GroupName
  tier : PriorityTier
  deriving DecidableEq, Repr, Inhabited

/-- The key of a quota entry. -/
structure QuotaKey where
  kind : QuotaKind
  slot : QuotaSlot
  deriving DecidableEq, Repr, Inhabited

/-- What a resource name stands for. -/
inductive QuotaResource where
  /-- A quota of nodes; its tier may be unknown. -/
  | scheduling (key : QuotaKey)
  /-- Some other resource. -/
  | ignored
  /-- A quota of nodes without a group or a tier. -/
  | malformed
  deriving DecidableEq, Repr

namespace QuotaSlot

instance : Ord QuotaSlot := ⟨compareLex (compareOn group) (compareOn tier)⟩

instance : Std.TransOrd QuotaSlot :=
  inferInstanceAs (Std.TransCmp (compareLex (compareOn group) (compareOn tier)))

instance : Std.LawfulEqOrd QuotaSlot where
  compare_self {slot} := by
    show compareLex (compareOn group) (compareOn tier) slot slot = .eq
    exact Std.ReflCmp.compare_self
  eq_of_compare {left right} h := by
    have h :
        (compare left.group right.group).then (compare left.tier right.tier) =
          .eq :=
      h
    rw [Ordering.then_eq_eq] at h
    cases left
    cases right
    exact congr (congrArg QuotaSlot.mk (Std.LawfulEqOrd.eq_of_compare h.1))
      (Std.LawfulEqOrd.eq_of_compare h.2)

end QuotaSlot

namespace QuotaKey

/-- The place of the kind decides first. -/
def kindPosition (key : QuotaKey) : Nat := key.kind.position

instance : Ord QuotaKey :=
  ⟨compareLex (compareOn kindPosition) (compareOn slot)⟩

instance : Std.TransOrd QuotaKey :=
  inferInstanceAs (Std.TransCmp
    (compareLex (compareOn kindPosition) (compareOn slot)))

instance : Std.LawfulEqOrd QuotaKey where
  compare_self {key} := by
    show compareLex (compareOn kindPosition) (compareOn slot) key key = .eq
    exact Std.ReflCmp.compare_self
  eq_of_compare {left right} h := by
    have h : (compare left.kindPosition right.kindPosition).then
        (compare left.slot right.slot) = .eq := h
    rw [Ordering.then_eq_eq] at h
    have hkind : left.kind = right.kind := by
      have hposition := Std.LawfulEqOrd.eq_of_compare h.1
      simp only [kindPosition] at hposition
      cases hleft : left.kind <;> cases hright : right.kind <;>
        simp_all [QuotaKind.position]
    cases left
    cases right
    exact congr (congrArg QuotaKey.mk hkind) (Std.LawfulEqOrd.eq_of_compare h.2)

/-- A key as quota entries write it. -/
def text (key : QuotaKey) : String :=
  key.kind.word ++ "-" ++ key.slot.group.text ++ "-" ++ key.slot.tier.name

/-- Reads a resource name. -/
def parse (resource : String) : QuotaResource :=
  match Text.splitAtFirst? '-' resource.toList with
  | none => .ignored
  | some (word, rest) =>
    match QuotaKind.ofWord? (String.ofList word) with
    | none => .ignored
    | some kind =>
      match Text.splitAtLast? '-' rest with
      | some (group, tier) =>
        if group.isEmpty || tier.isEmpty then .malformed
        else
          .scheduling ⟨kind, ⟨String.ofList group⟩,
            PriorityTier.ofName (String.ofList tier)⟩
      | none => .malformed

end QuotaKey

end ClusterTick
