import ClusterTick.Fixture.Scenario
import ClusterTick.Proofs.Quota.Groups
import ClusterTick.Proofs.Rules.QuotaAdmission
import ClusterTick.Proofs.Tick.Revision
import Mathlib.Data.Finset.Card
import Mathlib.Data.Finset.Dedup

/-!
# What a user with quota sees

A user sees the nodes of the groups in which it holds quota: those that are
there, and those that belong there.  As the groups of a quota table are listed
completely and once, none of them is overlooked, so what a user sees takes no
ceiling away in a group that has a node.
-/

namespace ClusterTick

/-- How a table lists the groups in which some tier has a positive ceiling. -/
structure QuotaTable.ListsHoldings (table : QuotaTable) : Prop where
  ordered : table.groups.Pairwise fun left right => compare left right = .lt
  complete : ∀ group, group ∈ table.groups ↔ table.holdsQuotaIn group
  positive :
    ∀ group, table.holdsQuotaIn group ↔ ∃ tier, 0 < table.ceiling group tier

theorem QuotaTable.listsHoldings (table : QuotaTable) :
    table.ListsHoldings where
  ordered := table.groups_ordered
  complete _ := table.mem_groups_iff
  positive _ := table.holdsQuotaIn_iff

namespace WorkingSet

/-- The active nodes that are in a group or belong to it. -/
def visibleNodes (snapshot : Snapshot) (defaultGroup group : GroupName) :
    Finset NodeName :=
  (((activeNodes snapshot defaultGroup).filter fun node =>
    node.group = group ∨ node.originGroup = group).map Node.name).toFinset

/-- How a user of the working set sees the active nodes. -/
structure Shows (snapshot : Snapshot) (defaultGroup : GroupName)
    (view : UserView) : Prop where
  visibleIn : ∀ group,
    view.visibleIn group =
      if view.quota.holdsQuotaIn group then
        (visibleNodes snapshot defaultGroup group).card
      else
        0
  /-- Where the group has a node, the user can use some of a positive
  ceiling. -/
  ceiling : ∀ group tier, 0 < view.quota.ceiling group tier →
    (∃ node ∈ activeNodes snapshot defaultGroup, node.group = group) →
    0 <
      QuotaAdmission.ceiling view (ofSnapshot snapshot defaultGroup).groupSize
        ⟨group, tier⟩

section Views

variable {snapshot : Snapshot} {defaultGroup : GroupName} {view : UserView}

/-- Names are distinct, so counting rows counts nodes. -/
theorem countVisible_activeNodes (group : GroupName) :
    UserView.countVisible (activeNodes snapshot defaultGroup) group =
      (visibleNodes snapshot defaultGroup group).card := by
  have hdistinct : ((activeNodes snapshot defaultGroup).map Node.name).Nodup :=
    OrderedMap.nodup_map_of_ordered (activeNodes_ordered snapshot defaultGroup)
  rw [visibleNodes,
    List.toFinset_card_of_nodup (hdistinct.sublist (List.filter_sublist.map _)),
    List.length_map, UserView.countVisible]

/-- A user is shown its groups, and nothing of the others. -/
theorem visibleIn_resolve (nodes : List Node)
    (owners : OrderedMap UserName User) (user : User) (group : GroupName) :
    (UserView.resolve nodes owners user).visibleIn group =
      if (QuotaTable.resolve owners user).holdsQuotaIn group then
        UserView.countVisible nodes group
      else 0 := by
  let table := QuotaTable.resolve owners user
  let counted :=
    table.groups.map fun group => (group, UserView.countVisible nodes group)
  have hkeys : counted.map Prod.fst = table.groups := by
    rw [List.map_map]
    exact List.map_id _
  show ((OrderedMap.ofList counted).get? group).getD 0 = _
  split
  case isTrue hholds =>
    have hlisted : (group, UserView.countVisible nodes group) ∈ counted :=
      List.mem_map_of_mem (table.mem_groups_iff.mpr hholds)
    rw [OrderedMap.get?_ofList_of_mem (hkeys ▸ table.nodup_groups) hlisted,
      Option.getD_some]
  case isFalse hnone =>
    have hmissing : ∀ entry ∈ counted, entry.1 ≠ group := by
      rintro entry hentry rfl
      exact hnone (table.mem_groups_iff.mp (hkeys ▸ List.mem_map_of_mem hentry))
    rw [OrderedMap.get?_ofList_eq_none_iff.mpr hmissing, Option.getD_none]

/-- Every view is made of a user row and the active nodes. -/
theorem exists_resolve_of_mem
    (hview : view ∈ (ofSnapshot snapshot defaultGroup).users.values) :
    ∃ owners user,
      view =
        UserView.resolve (activeNodes snapshot defaultGroup) owners user := by
  obtain ⟨entry, hentry, rfl⟩ := List.mem_map.mp hview
  have hvalue := OrderedMap.get?_eq_some_iff.mpr hentry
  rw [ofSnapshot, OrderedMap.get?_ofList_entries_map,
    Option.map_eq_some_iff] at hvalue
  obtain ⟨user, -, hresolved⟩ := hvalue
  let owners :=
    OrderedMap.ofList (snapshot.users.map fun user => (user.userName, user))
  have hsame :=
    resolve_congr (vacated_ofSnapshot_nodes snapshot defaultGroup) owners user
  exact ⟨owners, user, hresolved.symm.trans hsame⟩

theorem shows_of_mem
    (hview : view ∈ (ofSnapshot snapshot defaultGroup).users.values) :
    Shows snapshot defaultGroup view := by
  obtain ⟨owners, user, rfl⟩ := exists_resolve_of_mem hview
  have hvisible : ∀ group,
    (UserView.resolve (activeNodes snapshot defaultGroup) owners user).visibleIn
        group =
      if (QuotaTable.resolve owners user).holdsQuotaIn group then
(visibleNodes snapshot defaultGroup group).card else 0 := by
    intro group
    rw [visibleIn_resolve, countVisible_activeNodes]
  refine ⟨hvisible, ?_⟩
  rintro group tier hpositive ⟨node, hnode, rfl⟩
  have hheld : (QuotaTable.resolve owners user).holdsQuotaIn node.group :=
    (QuotaTable.holdsQuotaIn_iff _).mpr ⟨tier, hpositive⟩
  have hseen : node.name ∈ visibleNodes snapshot defaultGroup node.group := by
    rw [visibleNodes, List.mem_toFinset]
    exact List.mem_map_of_mem (List.mem_filter.mpr ⟨hnode, by simp⟩)
  have hcount := hvisible node.group
  rw [if_pos hheld] at hcount
  have hsome : 0 < (visibleNodes snapshot defaultGroup node.group).card :=
    Finset.card_pos.mpr ⟨node.name, hseen⟩
  have hsize : 0 < (ofSnapshot snapshot defaultGroup).groupSize node.group := by
    rw [groupSize, nodes_ofSnapshot]
    apply List.length_pos_of_mem
    exact List.mem_filter.mpr
      ⟨List.mem_map_of_mem hnode, by simp [NodeClaims.withHolder]⟩
  exact QuotaAdmission.ceiling_pos hpositive (hcount ▸ hsome) hsize

/-- The groups in which a user holds quota are listed completely and once, and
the user sees the active nodes that are in them or belong to them, and no
others. -/
theorem holdings_seen (snapshot : Snapshot) (defaultGroup : GroupName) :
    (∀ table : QuotaTable, table.ListsHoldings) ∧
      ∀ view ∈ (ofSnapshot snapshot defaultGroup).users.values,
        Shows snapshot defaultGroup view :=
  ⟨QuotaTable.listsHoldings, fun _ => shows_of_mem⟩

/-- A user with quota at two of three tiers of a group, with an empty quota in
the next, and with quota in a group that has a node of the first. -/
def lentNodes : Snapshot :=
  { group := ⟨"a100"⟩ : Scenario }
    |>.addReadyNode ⟨"n1"⟩ "room"
    |>.addNode { Scenario.readyNode ⟨"h100"⟩ ⟨"n2"⟩ "room" with
                 originGroup := ⟨"a100"⟩ }
    |>.addNode (Scenario.readyNode ⟨"b100"⟩ ⟨"n3"⟩ "room")
    |>.addUser
      { userName := ⟨"alice"⟩
        quota := OrderedMap.ofList
          [("node-a100-HIGH", 1), ("node-a100-NORMAL", 0), ("node-a100-LOW", 1),
            ("node-b100-LOW", 0), ("node-h100-LOW", 2)] }
    |>.snapshot default

/-- The lent node counts in both groups, and where the user holds nothing no
node counts. -/
theorem holdings_seen_lentNodes :
    ∃ view ∈ (ofSnapshot lentNodes ⟨"default"⟩).users.values,
      view.quota.groups = [⟨"a100"⟩, ⟨"h100"⟩] ∧
      (∀ group, group ∈ view.quota.groups ↔ view.quota.holdsQuotaIn group) ∧
      [⟨"a100"⟩, ⟨"b100"⟩, ⟨"h100"⟩].map view.visibleIn = [2, 0, 1] ∧
      Shows lentNodes ⟨"default"⟩ view := by
  have hseen := holdings_seen lentNodes ⟨"default"⟩
  refine ⟨((ofSnapshot lentNodes ⟨"default"⟩).users.get? ⟨"alice"⟩).get!, ?_,
    ?_, ?_, ?_, ?_⟩
  · decide +kernel
  · decide +kernel
  · exact (hseen.1 _).complete
  · decide +kernel
  · exact hseen.2 _ (by decide +kernel)

end Views

end WorkingSet

end ClusterTick
