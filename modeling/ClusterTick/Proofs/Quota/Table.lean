import ClusterTick.Proofs.Order.OrderedMap
import ClusterTick.Proofs.Quota.Key
import ClusterTick.Quota.Table
import Mathlib.Data.Option.Basic

/-!
# What a quota comes to

The ceiling of a group and tier, said of the raw entries.  A raw entry is looked
up by the text of its key, so what an owner grants for a key depends on one
entry only.  `ceilingByEntries` is the reference: own entries before inherited
ones, the greatest of the inherited ones, and the limit as a cap on the grant.
-/

namespace ClusterTick

namespace QuotaKey

instance (key : QuotaKey) : Decidable key.IsUsable :=
  decidable_of_iff
    (key.slot.group.isEmpty = false ∧ key.slot.tier ∈ PriorityTier.named)
    ⟨fun h => ⟨h.1, h.2⟩, fun h => ⟨h.group, h.tier⟩⟩

end QuotaKey

namespace QuotaGrants

/-- Of several grants for one key the greatest counts. -/
theorem get?_addAll (grants : QuotaGrants) (entries : List (QuotaKey × UInt32))
    (key : QuotaKey) :
    (addAll grants entries).get? key =
      ((grants.get? key).toList ++
        (entries.filter fun entry => entry.1 = key).map (·.2)).max? := by
  induction entries generalizing grants with
  | nil => cases hgrant : grants.get? key <;> simp [addAll, hgrant]
  | cons entry rest ih =>
    have hstep : addAll grants (entry :: rest) =
        addAll (OrderedMap.combine grants max entry.1 entry.2) rest := rfl
    rw [hstep, ih, OrderedMap.get?_combine]
    by_cases hkey : entry.1 = key
    · cases hgrant : grants.get? key <;> simp [hkey, hgrant, List.max?_cons']
    · simp [hkey, Ne.symm hkey]

/-- An entry grants something for a key if it is the entry of this key, and the
key is usable. -/
theorem grant?_eq_some_iff {resource : String} {amount : Int64}
    {grant : QuotaKey × UInt32} :
    grant? resource amount = some grant ↔
      grant.1.IsUsable ∧ resource = grant.1.text ∧
        grant.2 = clampAmount amount := by
  obtain ⟨key, granted⟩ := grant
  constructor
  · intro hgrant
    unfold grant? at hgrant
    split at hgrant
    · next read hparse =>
      split at hgrant
      · cases hgrant
      · next htier =>
        obtain ⟨rfl, rfl⟩ := Prod.mk.inj (Option.some.inj hgrant)
        obtain ⟨husable, htext⟩ :=
          (QuotaKey.parse_eq_scheduling_iff
              (PriorityTier.mem_named_iff.mpr htier)).mp hparse
        exact ⟨husable, htext, rfl⟩
    · cases hgrant
  · rintro ⟨husable, rfl, rfl⟩
    have htier := PriorityTier.mem_named_iff.mp husable.tier
    simp [grant?, QuotaKey.parse_text husable.group, htier]

/-- What the raw entries of one owner grant for a key. -/
theorem get?_ofQuota (quota : OrderedMap String Int64) (key : QuotaKey) :
    (ofQuota quota).get? key =
      if key.IsUsable then (quota.get? key.text).map clampAmount else none := by
  have hentry (entry : String × Int64) :
      ((grant? entry.1 entry.2).filter fun grant => grant.1 = key).map (·.2) =
        if key.IsUsable ∧ entry.1 = key.text then some (clampAmount entry.2)
        else none := by
    apply Option.ext
    intro granted
    simp only [Option.map_eq_some_iff, Option.filter_eq_some_iff,
      grant?_eq_some_iff, decide_eq_true_eq]
    constructor
    · rintro ⟨⟨_, _⟩, ⟨⟨husable, htext, rfl⟩, rfl⟩, rfl⟩
      rw [if_pos ⟨husable, htext⟩]
    · intro hgranted
      split at hgranted
      · next h =>
        obtain rfl := Option.some.inj hgranted
        exact ⟨(key, clampAmount entry.2), ⟨⟨h.1, h.2, rfl⟩, rfl⟩, rfl⟩
      · cases hgranted
  rw [ofQuota, get?_addAll, OrderedMap.get?_empty, List.filter_filterMap,
    List.map_filterMap]
  simp only [hentry]
  split
  case isTrue husable =>
    have hentries :
        (quota.entries.filterMap fun entry =>
            if key.IsUsable ∧ entry.1 = key.text then some (clampAmount entry.2)
            else none) =
          ((quota.get? key.text).map clampAmount).toList := by
      rw [Option.toList_map, ← OrderedMap.filter_entries_eq, List.map_map,
        ← List.filterMap_eq_map, List.filterMap_filter]
      simp [husable]
    rw [hentries]
    cases (quota.get? key.text).map clampAmount <;> rfl
  case isFalse hunusable => simp [hunusable]

end QuotaGrants

namespace QuotaTable

variable (owners : OrderedMap UserName User) (user : User)

/-- What a user inherits for a key is the greatest of what the owners grant. -/
theorem get?_inheritedGrants (key : QuotaKey) :
    (inheritedGrants owners user).get? key =
      (((inheritedOwners user).filterMap owners.get?).filterMap fun owner =>
        (QuotaGrants.ofQuota owner.quota).get? key).max? := by
  have hfold : inheritedGrants owners user = QuotaGrants.addAll OrderedMap.empty
      (((inheritedOwners user).filterMap owners.get?).flatMap fun owner =>
        (QuotaGrants.ofQuota owner.quota).entries) := by
    rw [QuotaGrants.addAll, List.foldl_flatMap]
    rfl
  rw [hfold, QuotaGrants.get?_addAll, OrderedMap.get?_empty,
    List.filter_flatMap, List.map_flatMap, List.filterMap_eq_flatMap_toList]
  simp only [OrderedMap.filter_entries_eq, Option.toList_none, List.nil_append,
    List.filterMap_eq_flatMap_toList]

theorem get?_effectiveGrants (key : QuotaKey) :
    (effectiveGrants owners user).get? key =
      ((QuotaGrants.ofQuota user.quota).get? key).or
        ((inheritedGrants owners user).get? key) :=
  OrderedMap.get?_insertAll_entries _ _ _

/-- A ceiling is a grant of nodes, lowered to the limit where there is one. -/
theorem get?_ceilings (grants : QuotaGrants) (slot : QuotaSlot) :
    (ofGrants grants).ceilings.get? slot =
      (grants.get? ⟨.node, slot⟩).map fun amount =>
        (grants.get? ⟨.nodeLimit, slot⟩).elim amount (min amount) := by
  have hkey {key : QuotaKey} {amount : UInt32} {entry : QuotaSlot × UInt32}
      (hentry : ceilingOf? grants key amount = some entry) :
      key = ⟨.node, entry.1⟩ := by
    obtain ⟨kind, slot⟩ := key
    cases kind with
    | node => rw [← (Prod.mk.inj (Option.some.inj hentry)).1]
    | nodeLimit => cases hentry
  have hdistinct : ((grants.entries.filterMap fun entry =>
      ceilingOf? grants entry.1 entry.2).map (·.1)).Nodup := by
    have hkeys := grants.nodup_keys
    rw [List.Nodup, List.pairwise_map] at hkeys ⊢
    refine hkeys.filterMap _ ?_
    intro left right hne first hfirst second hsecond hsame
    exact hne (by rw [hkey hfirst, hkey hsecond, hsame])
  cases hgrant : grants.get? ⟨.node, slot⟩ with
  | some amount =>
    apply OrderedMap.get?_ofList_of_mem hdistinct
    rw [List.mem_filterMap]
    refine ⟨_, OrderedMap.get?_eq_some_iff.mp hgrant, ?_⟩
    simp only [ceilingOf?]
    cases grants.get? ⟨.nodeLimit, slot⟩ <;> rfl
  | none =>
    apply OrderedMap.get?_ofList_eq_none_iff.mpr
    rintro entry hentry rfl
    obtain ⟨⟨key, amount⟩, hmem, hceiling⟩ := List.mem_filterMap.mp hentry
    exact OrderedMap.get?_eq_none_iff.mp hgrant _ hmem (hkey hceiling)

section Reference

/-- A raw amount as a number of nodes: at least zero and at most the largest
number. -/
def limited (amount : Int64) : Nat :=
  (min (max amount.toInt 0) (UInt32.size - 1)).toNat

/-- The raw entries of a name in the rows that a user inherits from: the rows of
the groups and of the role, but for the user's own. -/
def inheritedEntries (owners : OrderedMap UserName User) (user : User)
    (resource : String) : List Int64 :=
  (user.groups ++ [(⟨user.role.name⟩ : UserName)]).filterMap fun name =>
    if name = user.userName then none
    else (owners.get? name).bind fun owner => owner.quota.get? resource

/-- The amount that counts for a key: the own entry, or the greatest inherited
one. -/
def effectiveAmount? (owners : OrderedMap UserName User) (user : User)
    (key : QuotaKey) : Option Nat :=
  match user.quota.get? key.text with
  | some amount => some (limited amount)
  | none => ((inheritedEntries owners user key.text).map limited).max?

/-- The ceiling of a slot as the raw entries have it. -/
def ceilingByEntries (owners : OrderedMap UserName User) (user : User)
    (slot : QuotaSlot) : Nat :=
  if slot.group.isEmpty then 0
  else
    match effectiveAmount? owners user ⟨.node, slot⟩,
      effectiveAmount? owners user ⟨.nodeLimit, slot⟩ with
    | none, _ => 0
    | some amount, none => amount
    | some amount, some limit => min amount limit

/-- Raw quotas with the same entries among those that are read as a key of a
known tier. -/
def SameUsableEntries (left right : OrderedMap String Int64) : Prop :=
  ∀ resource key, QuotaKey.parse resource = .scheduling key →
    key.slot.tier ∈ PriorityTier.named →
    left.get? resource = right.get? resource

/-- Users who differ at most in the order and repetition of their groups and in
entries that are not read as a key of a known tier. -/
structure QuotaAlike (left right : User) : Prop where
  userName : left.userName = right.userName
  role : left.role = right.role
  groups : ∀ name, name ∈ left.groups ↔ name ∈ right.groups
  quota : SameUsableEntries left.quota right.quota

private theorem toNat_clampAmount (amount : Int64) :
    (QuotaGrants.clampAmount amount).toNat = limited amount := by
  rw [QuotaGrants.clampAmount, limited, UInt32.toNat_ofNat_of_lt']
  · simp only [UInt32.size]
    omega
  · simp only [UInt32.size]
    omega

private theorem map_toNat_max? (amounts : List UInt32) :
    amounts.max?.map UInt32.toNat = (amounts.map UInt32.toNat).max? := by
  cases amounts with
  | nil => rfl
  | cons amount rest =>
    rw [List.map_cons, List.max?_cons', List.max?_cons', List.foldl_map,
      Option.map_some,
      List.foldl_hom UInt32.toNat fun _ _ => (UInt32.toNat_max _ _).symm]

/-- The greatest of a list does not depend on order and repetition. -/
theorem max?_congr {left right : List Nat}
    (hmem : ∀ amount, amount ∈ left ↔ amount ∈ right) :
    left.max? = right.max? := by
  apply Option.ext
  intro amount
  rw [List.max?_eq_some_iff, List.max?_eq_some_iff]
  simp only [hmem]

private theorem map_toNat_get?_effectiveGrants {key : QuotaKey}
    (husable : key.IsUsable) :
    ((effectiveGrants owners user).get? key).map UInt32.toNat =
      effectiveAmount? owners user key := by
  rw [get?_effectiveGrants, get?_inheritedGrants, effectiveAmount?]
  simp only [QuotaGrants.get?_ofQuota, if_pos husable]
  cases user.quota.get? key.text with
  | some amount => simp [toNat_clampAmount]
  | none =>
    rw [Option.map_none, Option.none_or, map_toNat_max?, inheritedEntries,
      inheritedOwners, List.filterMap_filterMap, List.filterMap_filter,
      List.map_filterMap, List.map_filterMap]
    congr 2
    funext name
    by_cases hown : name = user.userName
    · simp [hown]
    · cases owners.get? name <;>
        simp [hown, Function.comp_def, toNat_clampAmount]

private theorem get?_effectiveGrants_of_not_usable {key : QuotaKey}
    (hunusable : ¬ key.IsUsable) :
    (effectiveGrants owners user).get? key = none := by
  rw [get?_effectiveGrants, get?_inheritedGrants]
  simp only [QuotaGrants.get?_ofQuota, if_neg hunusable]
  simp

/-- The ceilings are those of the reference, and there are none for unknown
tiers. -/
theorem toNat_ceiling_resolve (slot : QuotaSlot) :
    ((resolve owners user).ceiling slot.group slot.tier).toNat =
      if slot.tier ∈ PriorityTier.named then ceilingByEntries owners user slot
      else 0 := by
  have hceiling : (resolve owners user).ceiling slot.group slot.tier =
      ((resolve owners user).ceilings.get? slot).getD 0 := rfl
  rw [hceiling, resolve, get?_ceilings]
  by_cases husable : slot.group.isEmpty = false ∧ slot.tier ∈ PriorityTier.named
  · have heffective (kind : QuotaKind) :
        effectiveAmount? owners user ⟨kind, slot⟩ =
          ((effectiveGrants owners user).get? ⟨kind, slot⟩).map UInt32.toNat :=
      (map_toNat_get?_effectiveGrants owners user ⟨husable.1, husable.2⟩).symm
    rw [if_pos husable.2, ceilingByEntries, if_neg (by simp [husable.1]),
      heffective, heffective]
    cases (effectiveGrants owners user).get? ⟨.node, slot⟩ with
    | none => rfl
    | some amount =>
      cases (effectiveGrants owners user).get? ⟨.nodeLimit, slot⟩ with
      | none => rfl
      | some limit => simp [UInt32.toNat_min]
  · have hunusable : ¬ (⟨.node, slot⟩ : QuotaKey).IsUsable :=
      fun h => husable ⟨h.group, h.tier⟩
    rw [get?_effectiveGrants_of_not_usable owners user hunusable]
    split
    case isTrue htier =>
      have hempty : slot.group.isEmpty := by simpa [htier] using husable
      simp [ceilingByEntries, hempty]
    case isFalse => rfl

variable {owners user} {others : OrderedMap UserName User} {other : User}

private theorem mem_inheritedEntries_iff {resource : String} {amount : Int64} :
    amount ∈ inheritedEntries owners user resource ↔
      ∃ name, (name ∈ user.groups ∨ name = ⟨user.role.name⟩) ∧
        name ≠ user.userName ∧
        ∃ owner, owners.get? name = some owner ∧
          owner.quota.get? resource = some amount := by
  simp only [inheritedEntries, List.mem_filterMap, List.mem_append,
    List.mem_singleton]
  refine exists_congr fun name => and_congr_right fun _ => ?_
  by_cases hown : name = user.userName <;> simp [hown, Option.bind_eq_some_iff]

private theorem effectiveAmount?_congr (halike : QuotaAlike user other)
    (howners : ∀ name,
      Option.Rel (fun left right => SameUsableEntries left.quota right.quota)
        (owners.get? name) (others.get? name))
    {key : QuotaKey} (husable : key.IsUsable) :
    effectiveAmount? owners user key = effectiveAmount? others other key := by
  have hparse := QuotaKey.parse_text husable.group
  have hinherited : ((inheritedEntries owners user key.text).map limited).max? =
      ((inheritedEntries others other key.text).map limited).max? := by
    have hmem : ∀ amount, amount ∈ inheritedEntries owners user key.text ↔
        amount ∈ inheritedEntries others other key.text := by
      intro amount
      rw [mem_inheritedEntries_iff, mem_inheritedEntries_iff]
      refine exists_congr fun name => ?_
      rw [halike.groups, halike.role, halike.userName]
      refine and_congr_right fun _ => and_congr_right fun _ => ?_
      have hrows := howners name
      generalize owners.get? name = left at hrows ⊢
      generalize others.get? name = right at hrows ⊢
      cases hrows with
      | none => simp
      | some hsame => simp [hsame _ _ hparse husable.tier]
    apply max?_congr
    simp only [List.mem_map, hmem, implies_true]
  rw [effectiveAmount?, effectiveAmount?, halike.quota _ _ hparse husable.tier,
    hinherited]

private theorem ceilingByEntries_congr (halike : QuotaAlike user other)
    (howners : ∀ name,
      Option.Rel (fun left right => SameUsableEntries left.quota right.quota)
        (owners.get? name) (others.get? name))
    {slot : QuotaSlot} (htier : slot.tier ∈ PriorityTier.named) :
    ceilingByEntries owners user slot = ceilingByEntries others other slot := by
  unfold ceilingByEntries
  split
  · rfl
  · next hgroup =>
    have hgroup : slot.group.isEmpty = false := by simpa using hgroup
    have heffective (kind : QuotaKind) :
        effectiveAmount? owners user ⟨kind, slot⟩ =
          effectiveAmount? others other ⟨kind, slot⟩ :=
      effectiveAmount?_congr halike howners ⟨hgroup, htier⟩
    rw [heffective, heffective]

end Reference

/-- Every ceiling is what the raw entries say, and only that: neither the order
nor the repetition of groups counts, nor do entries that are not read as a key
of a known tier. -/
theorem ceiling_resolve_exact :
    (∀ (owners : OrderedMap UserName User) (user : User) (group : GroupName)
        (tier : PriorityTier), tier ∈ PriorityTier.named →
        ((resolve owners user).ceiling group tier).toNat =
          ceilingByEntries owners user ⟨group, tier⟩) ∧
      ∀ (owners others : OrderedMap UserName User) (user other : User),
        QuotaAlike user other →
        (∀ name,
          Option.Rel
            (fun left right => SameUsableEntries left.quota right.quota)
            (owners.get? name) (others.get? name)) →
        ∀ (group : GroupName) (tier : PriorityTier),
        (resolve owners user).ceiling group tier =
          (resolve others other).ceiling group tier := by
  constructor
  · intro owners user group tier htier
    rw [toNat_ceiling_resolve owners user ⟨group, tier⟩, if_pos htier]
  · intro owners others user other halike howners group tier
    apply UInt32.toNat_inj.mp
    rw [toNat_ceiling_resolve owners user ⟨group, tier⟩,
      toNat_ceiling_resolve others other ⟨group, tier⟩]
    split
    · next htier => exact ceilingByEntries_congr halike howners htier
    · rfl

/-- A member of two groups, with an entry of a tier that does not exist. -/
def shared : User where
  userName := ⟨"bob"⟩
  groups := [⟨"lab"⟩, ⟨"team"⟩]
  quota :=
    OrderedMap.ofList [("node_limit-a-100-HIGH", 4), ("node-a-100-URGENT", 9)]

/-- The same member without that entry, the groups repeated in another order. -/
def regrouped : User where
  userName := ⟨"bob"⟩
  groups := [⟨"team"⟩, ⟨"lab"⟩, ⟨"team"⟩]
  quota := OrderedMap.ofList [("node_limit-a-100-HIGH", 4)]

/-- The rows of the groups and of the role. -/
def sharedOwners : OrderedMap UserName User :=
  OrderedMap.ofList ([("lab", 3), ("team", 5),
    ("internal", -1)].map fun (name, amount) =>
      (⟨name⟩,
        { userName := ⟨name⟩,
          quota := OrderedMap.ofList [("node-a-100-HIGH", amount)] }))

private theorem quotaAlike_regrouped : QuotaAlike shared regrouped where
  userName := rfl
  role := rfl
  groups name := by simp [shared, regrouped]; tauto
  quota resource key hparse htier := by
    have hne : resource ≠ "node-a-100-URGENT" := by
      rintro rfl
      have hunknown : QuotaKey.parse "node-a-100-URGENT" =
          .scheduling ⟨.node, ⟨⟨"a-100"⟩, .unknown⟩⟩ := by decide +kernel
      rw [hunknown] at hparse
      obtain rfl := QuotaResource.scheduling.inj hparse
      exact absurd htier (by decide)
    rw [shared, regrouped, OrderedMap.get?_ofList, OrderedMap.get?_ofList]
    simp [List.find?_cons, Ne.symm hne]

/-- The member may hold the greatest of three inherited amounts, up to the own
limit. -/
theorem ceiling_resolve_exact_shared :
    ((resolve sharedOwners shared).ceiling ⟨"a-100"⟩ .high).toNat = 4 ∧
      (resolve sharedOwners shared).ceiling ⟨"a-100"⟩ .high =
        (resolve sharedOwners regrouped).ceiling ⟨"a-100"⟩ .high := by
  constructor
  · rw [ceiling_resolve_exact.1 sharedOwners shared ⟨"a-100"⟩ .high (by decide)]
    decide +kernel
  · refine ceiling_resolve_exact.2 sharedOwners sharedOwners shared regrouped
      quotaAlike_regrouped ?_ _ _
    intro name
    cases sharedOwners.get? name with
    | none => exact .none
    | some owner => exact .some fun _ _ _ _ => rfl

end QuotaTable

end ClusterTick
