import ClusterTick.Proofs.Match.Reach
import Mathlib.Algebra.BigOperators.Group.List.Basic
import Mathlib.Data.Finset.Card
import Mathlib.Data.Finset.Dedup

/-!
# The choice of victims

Victims are gathered from the front and spared from the back, with a running
count of the available nodes.  The count is that of the nodes which are free or
would be given back, each counted once, since no node is held twice and no
holder lists one twice.  So a choice is given up only if nothing would help, and
of the victims that are chosen none can be spared.
-/

namespace ClusterTick.MatchState

/-- The holders that a task of the given priority may suspend. -/
def holdersBelow (state : MatchState) (priority : Int32) : List Holder :=
  state.holders.filter fun holder => holder.priority < priority

/-- The nodes that are free once the given holders have left. -/
def roomAfter (state : MatchState) (leaving : List Holder) : Finset NodeName :=
  (state.freeNodes.map Node.name ++ leaving.flatMap state.usableNames).toFinset

/-- Holders that make room for the needed number of nodes, and all of which it
takes. -/
structure NeededVictims (state : MatchState) (priority : Int32) (needed : Nat)
    (victims : List Holder) : Prop where
  nonempty : victims ≠ []
  distinct : (victims.map Holder.id).Nodup
  below : ∀ victim ∈ victims, victim ∈ state.holdersBelow priority
  usable : ∀ victim ∈ victims, 0 < state.usableNodes victim
  enough : ∀ preemptor,
    needed ≤ (state.preempt preemptor (victims.map Holder.id)).1.freeCount
  irredundant :
    ∀ victim ∈ victims, (state.roomAfter (victims.erase victim)).card < needed

/-- How victims are to be chosen. -/
structure ChoosesVictims (state : MatchState) (priority : Int32)
    (needed : Nat) : Prop where
  none_iff : state.victims? priority needed = none ↔
    (state.roomAfter (state.holdersBelow priority)).card < needed
  some : ∀ ids, state.victims? priority needed = some ids →
    ∃ victims : List Holder, ids = victims.map Holder.id ∧
      state.NeededVictims priority needed victims
  /-- What is counted holder by holder is what the holders would free
  together. -/
  counts : ∀ leaving : List Holder, leaving.Subperm state.holders →
    (state.roomAfter leaving).card =
      state.freeCount + (leaving.map state.usableNodes).sum
  /-- A victim whose turn comes to be spared is among what is available by
  then. -/
  subtracts : ∀ before victim after,
    (state.gather needed state.freeCount (state.eligible priority)).2 =
      before ++ victim :: after →
    victim.2 ≤
      (spare needed
        (state.gather needed state.freeCount (state.eligible priority)).1
        after).1

section Pruning

variable {needed available : Nat}

/-- The pruning takes off no more than what the victims that it has come to
would free. -/
theorem le_spare_add_sum (taken : List (TaskId × Nat)) :
    available ≤ (spare needed available taken).1 + (taken.map (·.2)).sum := by
  induction taken with
  | nil => exact Nat.le_add_right available 0
  | cons victim rest ih =>
    rw [spare_cons, List.map_cons, List.sum_cons]
    split
    · show available ≤ (spare needed available rest).1 - victim.2 + _
      omega
    · show available ≤ (spare needed available rest).1 + _
      omega

/-- So the count never falls short of the victim that is examined. -/
theorem le_spare_of_split {free : Nat} {before after : List (TaskId × Nat)}
    {victim : TaskId × Nat}
    (havailable : available =
      free + ((before ++ victim :: after).map (·.2)).sum) :
    victim.2 ≤ (spare needed available after).1 := by
  have hpruned :
      available ≤ (spare needed available after).1 + (after.map (·.2)).sum :=
    le_spare_add_sum after
  rw [List.map_append, List.sum_append, List.map_cons,
    List.sum_cons] at havailable
  omega

private theorem le_spare_gather (state : MatchState) {free : Nat}
    {holders : List Holder} {before after : List (TaskId × Nat)}
    {victim : TaskId × Nat}
    (hsplit : (state.gather needed free holders).2 =
      before ++ victim :: after) :
    victim.2 ≤ (spare needed (state.gather needed free holders).1 after).1 := by
  obtain ⟨taken, -, heq⟩ := gather_eq state needed free holders
  have havailable : (state.gather needed free holders).1 =
      free + ((before ++ victim :: after).map (·.2)).sum := by
    rw [← hsplit, heq, List.map_map]
    rfl
  exact le_spare_of_split havailable

end Pruning

section Choice

variable {state : MatchState} {priority : Int32} {needed : Nat}
  {victims : List Holder}

/-- The nodes that holders would free together are as many as they would free
one by one. -/
theorem card_roomAfter (hstate : state.Coherent) (hholders : state.SoundHolders)
    (hvictims : victims.Subperm state.holders) :
    (state.roomAfter victims).card =
      state.freeCount + (victims.map state.usableNodes).sum := by
  have hdistinct :=
    nodup_free_and_usable hstate
      (nodup_ids_of_subperm hholders.distinct hvictims) fun victim hvictim =>
        hholders.listedOnce victim (hvictims.subset hvictim)
  rw [roomAfter, List.toFinset_card_of_nodup hdistinct, List.length_append,
    List.length_map, ← freeCount_eq_length, List.length_flatMap]
  rfl

/-- After a preemption those nodes are free. -/
theorem freeCount_preempt (hstate : state.Coherent)
    (hholders : state.SoundHolders)
    (hrows : (state.decisions.map Task.id).Nodup)
    (hvictims : victims.Subperm state.holders) (preemptor : TaskId) :
    (state.preempt preemptor (victims.map Holder.id)).1.freeCount =
      (state.roomAfter victims).card := by
  have hdistinct := nodup_ids_of_subperm hholders.distinct hvictims
  rw [preempt_eq hholders.distinct hrows hdistinct fun _ hvictim =>
      hvictims.subset hvictim, card_roomAfter hstate hholders hvictims]
  exact freeCount_dismissAll hstate hdistinct
    fun victim hvictim => hholders.listedOnce victim (hvictims.subset hvictim)

private theorem victims?_eq_none_iff_card (hstate : state.Coherent)
    (hholders : state.SoundHolders) :
    state.victims? priority needed = none ↔
      (state.roomAfter (state.holdersBelow priority)).card < needed := by
  rw [victims?_eq_none_iff,
    ((eligible_perm state priority).map state.usableNodes).sum_eq, holdersBelow,
    card_roomAfter hstate hholders List.filter_sublist.subperm]

/-- Whoever is among the victims could not be spared. -/
theorem neededVictims_of_victims? (hstate : state.Coherent)
    (hholders : state.SoundHolders)
    (hrows : (state.decisions.map Task.id).Nodup)
    (hneeded : state.freeCount < needed) {ids : List TaskId}
    (hids : state.victims? priority needed = some ids) :
    ∃ victims : List Holder, ids = victims.map Holder.id ∧
      state.NeededVictims priority needed victims := by
  obtain ⟨victims, rfl, hvictims, hbelow, henough, hleast⟩ :=
    victims?_eq_some hids
  refine ⟨victims, rfl, ?_⟩
  exact {
    nonempty := by
      rintro rfl
      exact absurd henough (Nat.not_le.mpr hneeded)
    distinct := nodup_ids_of_subperm hholders.distinct hvictims
    below := fun victim hvictim => List.mem_filter.mpr
      ⟨hvictims.subset hvictim, decide_eq_true (hbelow victim hvictim)⟩
    usable := by
      intro victim hvictim
      have hlack := hleast victim hvictim
      omega
    enough := by
      intro preemptor
      rwa [freeCount_preempt hstate hholders hrows hvictims,
        card_roomAfter hstate hholders hvictims]
    irredundant := by
      intro victim hvictim
      have hlack := hleast victim hvictim
      have hothers := List.sum_map_erase state.usableNodes hvictim
      rw [card_roomAfter hstate hholders
        (List.erase_sublist.subperm.trans hvictims)]
      omega }

theorem choosesVictims (hstate : state.Coherent) (hholders : state.SoundHolders)
    (hrows : (state.decisions.map Task.id).Nodup)
    (hneeded : state.freeCount < needed) :
    state.ChoosesVictims priority needed where
  none_iff := victims?_eq_none_iff_card hstate hholders
  some _ := neededVictims_of_victims? hstate hholders hrows hneeded
  counts _ := card_roomAfter hstate hholders
  subtracts _ _ _ := le_spare_gather state

end Choice

end ClusterTick.MatchState
