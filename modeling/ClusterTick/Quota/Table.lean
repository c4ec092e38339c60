import ClusterTick.Model.User
import ClusterTick.Quota.Key

/-!
# Quota tables

The node ceilings of a user.  For each quota key the user's own entry counts;
without one, the greatest entry among the owners that the user inherits from
does.  A ceiling is the `node` amount, lowered to the `node_limit` amount where
there is one.
-/

namespace ClusterTick

/-- How many entries of a quota were of which sort.  An entry with a negative
amount is parsed, too; it grants nothing. -/
structure QuotaStats where
  parsed : Nat := 0
  ignored : Nat := 0
  malformed : Nat := 0
  unknownTier : Nat := 0
  negative : Nat := 0
  deriving DecidableEq, Repr, Inhabited

namespace QuotaStats

instance : Add QuotaStats where
  add left right := {
    parsed := left.parsed + right.parsed
    ignored := left.ignored + right.ignored
    malformed := left.malformed + right.malformed
    unknownTier := left.unknownTier + right.unknownTier
    negative := left.negative + right.negative }

/-- Entries that look like node quotas and grant nothing. -/
def rejected (stats : QuotaStats) : Nat := stats.malformed + stats.unknownTier

def json (stats : QuotaStats) : Json :=
  .object [
    ("parsed", .ofNat stats.parsed),
    ("ignored", .ofNat stats.ignored),
    ("malformed", .ofNat stats.malformed),
    ("unknown_tier", .ofNat stats.unknownTier),
    ("negative", .ofNat stats.negative),
    ("rejected", .ofNat stats.rejected)]

/-- How one entry counts. -/
def ofEntry (resource : String) (amount : Int64) : QuotaStats :=
  match QuotaKey.parse resource with
  | .ignored => { ignored := 1 }
  | .malformed => { malformed := 1 }
  | .scheduling key =>
    if key.slot.tier = .unknown then { unknownTier := 1 }
    else { parsed := 1, negative := if amount < 0 then 1 else 0 }

/-- How the entries of a quota count together. -/
def ofQuota (quota : OrderedMap String Int64) : QuotaStats :=
  quota.entries.foldl
    (fun stats (resource, amount) => stats + ofEntry resource amount) {}

end QuotaStats

/-- Amounts by quota key. -/
abbrev QuotaGrants := OrderedMap QuotaKey UInt32

namespace QuotaGrants

/-- A raw amount as a number of nodes: nothing when negative, and at most the
largest number of nodes. -/
def clampAmount (amount : Int64) : UInt32 :=
  UInt32.ofNat (min amount.toInt.toNat (UInt32.size - 1))

/-- The grant that an entry makes, if its name is a node quota of a known
tier. -/
def grant? (resource : String) (amount : Int64) : Option (QuotaKey × UInt32) :=
  match QuotaKey.parse resource with
  | .scheduling key =>
    if key.slot.tier = .unknown then none else some (key, clampAmount amount)
  | _ => none

/-- Grants with further ones added; of two for one key the greater counts. -/
def addAll (grants : QuotaGrants) (entries : List (QuotaKey × UInt32)) :
    QuotaGrants :=
  entries.foldl (fun grants (key, amount) => grants.combine max key amount)
    grants

/-- The grants of a raw quota. -/
def ofQuota (quota : OrderedMap String Int64) : QuotaGrants :=
  addAll OrderedMap.empty
    (quota.entries.filterMap fun (resource, amount) => grant? resource amount)

end QuotaGrants

/-- The node ceilings of a user by group and tier. -/
structure QuotaTable where
  ceilings : OrderedMap QuotaSlot UInt32
  deriving DecidableEq, Repr, Inhabited

namespace QuotaTable

/-- The owners that a user inherits from: the groups, and the account of the
role.  Nobody inherits from oneself. -/
def inheritedOwners (user : User) : List UserName :=
  (user.groups ++ [(⟨user.role.name⟩ : UserName)]).filter (· ≠ user.userName)

/-- What a user inherits, the greatest amount for each key. -/
def inheritedGrants (owners : OrderedMap UserName User) (user : User) :
    QuotaGrants :=
  ((inheritedOwners user).filterMap owners.get?).foldl
    (fun grants owner =>
      grants.addAll (QuotaGrants.ofQuota owner.quota).entries)
    OrderedMap.empty

/-- What a user is granted: own entries, and inherited ones for other keys. -/
def effectiveGrants (owners : OrderedMap UserName User) (user : User) :
    QuotaGrants :=
  (inheritedGrants owners user).insertAll
    (QuotaGrants.ofQuota user.quota).entries

/-- The ceiling that a grant makes; a limit makes none. -/
def ceilingOf? (grants : QuotaGrants) (key : QuotaKey) (amount : UInt32) :
    Option (QuotaSlot × UInt32) :=
  match key.kind with
  | .nodeLimit => none
  | .node => some (key.slot,
      match grants.get? ⟨.nodeLimit, key.slot⟩ with
      | some limit => min amount limit
      | none => amount)

/-- The table of grants. -/
def ofGrants (grants : QuotaGrants) : QuotaTable :=
  ⟨OrderedMap.ofList (grants.entries.filterMap fun (key, amount) =>
    ceilingOf? grants key amount)⟩

/-- The table of a user among the owners of quota. -/
def resolve (owners : OrderedMap UserName User) (user : User) : QuotaTable :=
  ofGrants (effectiveGrants owners user)

/-- The ceiling of a group and tier, zero when nothing is granted. -/
def ceiling (table : QuotaTable) (group : GroupName) (tier : PriorityTier) :
    UInt32 :=
  (table.ceilings.get? ⟨group, tier⟩).getD 0

/-- Whether some tier of a group has a positive ceiling. -/
def holdsQuotaIn (table : QuotaTable) (group : GroupName) : Bool :=
  table.ceilings.entries.any fun (slot, ceiling) =>
    slot.group = group ∧ 0 < ceiling

/-- The groups of the entries with a positive ceiling, where `last` is the group
that was listed last, which is not listed again. -/
def groupsAfter :
    (last : Option GroupName) → List (QuotaSlot × UInt32) → List GroupName
  | _, [] => []
  | last, (slot, ceiling) :: rest =>
    if ceiling = 0 ∨ last = some slot.group then groupsAfter last rest
    else slot.group :: groupsAfter (some slot.group) rest

/-- The groups with a positive ceiling.  The tiers of a group stand together, so
each group is listed once. -/
def groups (table : QuotaTable) : List GroupName :=
  groupsAfter none table.ceilings.entries

def isEmpty (table : QuotaTable) : Bool := table.ceilings.isEmpty

end QuotaTable

end ClusterTick
