import ClusterTick.Proofs.Match.Placement
import ClusterTick.Proofs.Order.Sorting
import Mathlib.Data.List.Permutation
import Mathlib.Data.Prod.Lex
import Mathlib.Data.String.Basic

/-!
# The locality of placements

Training work gets its nodes in one room if some room has enough of them free:
the least of these rooms by a rank, and its first nodes by a key.  Otherwise it
gets the first of all free nodes.  `LocalChoice` says so without a word on
sorting, and leaves no freedom: the answer does not depend on how the free nodes
are listed.
-/

namespace ClusterTick.Placement

section First

variable {α κ : Type} [LinearOrder κ] {key : α → κ}
  {rows others chosen picked : List α}
variable {count : Nat}

/-- Whether some rows are the first of all, in the order of a key. -/
structure AreFirst (key : α → κ) (rows : List α) (count : Nat)
    (chosen : List α) : Prop where
  length : chosen.length = count
  subset : chosen ⊆ rows
  ordered : chosen.Pairwise fun left right => key left < key right
  before : ∀ row ∈ chosen, ∀ other ∈ rows, other ∉ chosen → key row < key other

namespace AreFirst

theorem nodup (hfirst : AreFirst key rows count chosen) : chosen.Nodup := by
  refine hfirst.ordered.imp fun hlt => ?_
  rintro rfl
  exact lt_irrefl _ hlt

/-- Of two choices from the same rows, neither has a row that the other
lacks. -/
theorem subset_of_mem_iff (hchosen : AreFirst key rows count chosen)
    (hpicked : AreFirst key others count picked)
    (hmem : ∀ row, row ∈ rows ↔ row ∈ others) : chosen ⊆ picked := by
  intro row hrow
  by_contra hmissing
  -- Both choices have as many rows, so another row is picked in place of the
  -- missing one.
  have hnot : ¬ picked ⊆ chosen := by
    intro hsubset
    have hperm : picked.Perm chosen := by
      apply (List.subperm_of_subset hpicked.nodup hsubset).perm_of_length_le
      rw [hchosen.length, hpicked.length]
    exact hmissing (hperm.mem_iff.mpr hrow)
  obtain ⟨other, hother, hlacks⟩ : ∃ other ∈ picked, other ∉ chosen := by
    simpa [List.subset_def] using hnot
  have hlt : key row < key other :=
    hchosen.before row hrow other ((hmem other).mpr (hpicked.subset hother))
      hlacks
  have hgt : key other < key row :=
    hpicked.before other hother row ((hmem row).mp (hchosen.subset hrow))
      hmissing
  exact lt_asymm hlt hgt

/-- The first rows of a list are determined by what rows it has. -/
theorem eq_of_mem_iff (hchosen : AreFirst key rows count chosen)
    (hpicked : AreFirst key others count picked)
    (hmem : ∀ row, row ∈ rows ↔ row ∈ others) : chosen = picked := by
  have hperm : chosen.Perm picked :=
    (List.perm_ext_iff_of_nodup hchosen.nodup hpicked.nodup).mpr fun row =>
      ⟨fun hrow => hchosen.subset_of_mem_iff hpicked hmem hrow,
        fun hrow =>
          hpicked.subset_of_mem_iff hchosen (fun row => (hmem row).symm) hrow⟩
  exact hperm.eq_of_pairwise (fun _ _ _ _ hlt hgt => absurd hgt (lt_asymm hlt))
    hchosen.ordered hpicked.ordered

end AreFirst

/-- The first rows of a sort by key come before all others. -/
theorem areFirst_take_mergeSort (hdistinct : (rows.map key).Nodup)
    (hcount : count ≤ rows.length) :
    AreFirst key rows count
      ((rows.mergeSort fun left right =>
          (compare (key left) (key right)).isLE).take count) := by
  have hordered :
      (rows.mergeSort fun left right =>
          (compare (key left) (key right)).isLE).Pairwise fun left right =>
        key left < key right :=
    (mergeSort_key_ordered hdistinct).imp compare_lt_iff_lt.mp
  refine ⟨?_, ?_, hordered.sublist (List.take_sublist _ _), ?_⟩
  · rw [List.length_take, List.length_mergeSort]
    exact Nat.min_eq_left hcount
  · intro row hrow
    exact List.mem_mergeSort.mp (List.mem_of_mem_take hrow)
  · intro row hrow other hother hlater
    have hsorted : other ∈ rows.mergeSort fun left right =>
        (compare (key left) (key right)).isLE := List.mem_mergeSort.mpr hother
    rw [← List.take_append_drop count (rows.mergeSort _),
      List.mem_append] at hsorted
    rw [← List.take_append_drop count (rows.mergeSort _),
      List.pairwise_append] at hordered
    exact hordered.2.2 row hrow other (hsorted.resolve_left hlater)

/-- A sort by key is headed by a row of the least key. -/
theorem le_of_head?_mergeSort {least : α}
    (hleast : (rows.mergeSort fun left right =>
      (compare (key left) (key right)).isLE).head? = some least) :
    least ∈ rows ∧ ∀ row ∈ rows, key least ≤ key row := by
  obtain ⟨rest, hsorted⟩ := List.head?_eq_some_iff.mp hleast
  have hordered := pairwise_mergeSort_isLE (compareOn key) rows
  have hmem : ∀ row, row ∈ least :: rest ↔ row ∈ rows := fun row => by
    rw [← hsorted, List.mem_mergeSort]
  refine ⟨(hmem least).mp List.mem_cons_self, fun row hrow => ?_⟩
  rcases List.mem_cons.mp ((hmem row).mpr hrow) with rfl | hlater
  · exact le_rfl
  · have hsame :
        (rows.mergeSort fun left right => (compareOn key left right).isLE) =
          least :: rest :=
      hsorted
    rw [hsame, List.pairwise_cons] at hordered
    exact Std.LawfulBCmp.isLE_iff_le.mp (hordered.1 row hlater)

end First

variable (free : List Node) (preferred : List NodeName) (count : Nat)

/-- What the nodes of a room are ordered by: preferred ones first, then by
spine, leaf and name. -/
def roomKey (node : Node) : Bool ×ₗ String ×ₗ String ×ₗ String :=
  toLex (decide (node.name ∉ preferred),
    toLex (node.spine, toLex (node.leaf, node.name.text)))

/-- What the nodes of all rooms are ordered by. -/
def poolKey (node : Node) : Bool ×ₗ String ×ₗ String ×ₗ String ×ₗ String :=
  toLex (decide (node.name ∉ preferred),
    toLex (node.room, toLex (node.spine, toLex (node.leaf, node.name.text))))

/-- What rooms are ordered by: those with a preferred node first, then by the
number of their free nodes and by name. -/
def roomRank (room : String) : Bool ×ₗ Nat ×ₗ String :=
  toLex (decide (∀ node ∈ inRoom free room, node.name ∉ preferred),
    toLex ((inRoom free room).length, room))

/-- The least room of those that are large enough. -/
structure IsBestRoom (room : String) : Prop where
  large : count ≤ (inRoom free room).length
  least : ∀ other, count ≤ (inRoom free other).length →
    roomRank free preferred room ≤ roomRank free preferred other

/-- What a choice of nodes for training work keeps to. -/
structure LocalChoice (answer : Option (List NodeName)) : Prop where
  /-- It fails exactly if too few nodes are free. -/
  none_iff : answer = none ↔ free.length < count
  /-- It names free nodes, as many as asked for and none of them twice. -/
  chosen : ∀ names, answer = some names →
    names.length = count ∧ names.Nodup ∧ names ⊆ free.map Node.name
  /-- A room that is large enough keeps the nodes together. -/
  oneRoom : (∃ room, count ≤ (inRoom free room).length) →
    ∃ room nodes, IsBestRoom free preferred count room ∧
      AreFirst (roomKey preferred) (inRoom free room) count nodes ∧
      answer = some (nodes.map Node.name)
  /-- Without one, the first of all free nodes are taken. -/
  acrossRooms : count ≤ free.length →
    (∀ room, (inRoom free room).length < count) →
    ∃ nodes, AreFirst (poolKey preferred) free count nodes ∧
      answer = some (nodes.map Node.name)

section Keys

variable {free preferred count}

theorem comparePreferred_eq (left right : Node) :
    comparePreferred preferred left right =
      compare (decide (left.name ∉ preferred))
        (decide (right.name ∉ preferred)) := by
  rw [comparePreferred, List.contains_eq_mem, List.contains_eq_mem]
  by_cases hleft : left.name ∈ preferred <;>
    by_cases hright : right.name ∈ preferred <;> simp [hleft, hright]

private theorem compareInRoom_eq :
    compareInRoom preferred = compareOn (roomKey preferred) := by
  funext left right
  rw [compareInRoom, comparePreferred_eq, Ordering.then_assoc,
    Ordering.then_assoc]
  rfl

private theorem compareAcrossRooms_eq :
    compareAcrossRooms preferred = compareOn (poolKey preferred) := by
  funext left right
  have hpool : compareOn (poolKey preferred) left right =
      (comparePreferred preferred left right).then
        ((compare left.room right.room).then
          ((compare left.spine right.spine).then
            ((compare left.leaf right.leaf).then
              (compare left.name right.name)))) := by
    rw [comparePreferred_eq]
    rfl
  -- Inside a room, nodes that both are preferred or both are not are compared
  -- once more.
  rw [hpool, compareAcrossRooms, compareInRoom, Ordering.then_assoc,
    Ordering.then_assoc, Ordering.then_assoc]
  cases comparePreferred preferred left right <;> rfl

private theorem compareRooms_eq :
    compareRooms preferred free = compareOn (roomRank free preferred) := by
  have hlacks : ∀ room, lacksPreferred preferred free room =
      decide (∀ node ∈ inRoom free room, node.name ∉ preferred) := by
    intro room
    rw [Bool.eq_iff_iff]
    simp [lacksPreferred]
  funext left right
  rw [compareRooms, hlacks, hlacks, Ordering.then_assoc]
  rfl

/-- Nodes of different names have different keys. -/
theorem nodup_map_of_name {κ : Type} {key : Node → κ} {nodes : List Node}
    (hnames : (nodes.map Node.name).Nodup)
    (hkey : ∀ left right, key left = key right →
      left.name.text = right.name.text) :
    (nodes.map key).Nodup := by
  refine List.Nodup.map_on ?_ hnames.of_map
  intro left hleft right hright hsame
  exact List.inj_on_of_nodup_map hnames hleft hright
    (congrArg Label.mk (hkey left right hsame))

end Keys

section Choice

variable {free preferred count}

theorem mem_largeRooms_iff (hcount : 1 ≤ count) {room : String} :
    room ∈ largeRooms free count ↔ count ≤ (inRoom free room).length := by
  rw [largeRooms, List.mem_filter, mem_sortedKeys_iff, decide_eq_true_iff,
    and_iff_right_iff_imp]
  intro hlarge
  obtain ⟨node, hnode⟩ :=
    List.exists_mem_of_length_pos (Nat.lt_of_lt_of_le hcount hlarge)
  obtain ⟨hfree, hroom⟩ := List.mem_filter.mp hnode
  exact List.mem_map.mpr ⟨node, hfree, of_decide_eq_true hroom⟩

/-- The room that nodes are taken from is the best one. -/
theorem isBestRoom_of_bestRoom? (hcount : 1 ≤ count) {room : String}
    (hroom : bestRoom? preferred free count = some room) :
    IsBestRoom free preferred count room := by
  rw [bestRoom?, compareRooms_eq] at hroom
  obtain ⟨hmem, hleast⟩ := le_of_head?_mergeSort hroom
  exact ⟨(mem_largeRooms_iff hcount).mp hmem, fun other hother =>
    hleast other ((mem_largeRooms_iff hcount).mpr hother)⟩

private theorem bestRoom?_eq_none_iff (hcount : 1 ≤ count) :
    bestRoom? preferred free count = none ↔
      ∀ room, (inRoom free room).length < count := by
  rw [bestRoom?, List.head?_eq_none_iff, ← List.length_eq_zero_iff,
    List.length_mergeSort, List.length_eq_zero_iff,
    List.eq_nil_iff_forall_not_mem]
  simp only [mem_largeRooms_iff hcount, Nat.not_le]

theorem localChoice_selectNodes (hnames : (free.map Node.name).Nodup)
    (hcount : 1 ≤ count) :
    LocalChoice free preferred count (selectNodes free preferred count) where
  none_iff := selectNodes_eq_none_iff
  chosen names hchosen := by
    obtain ⟨hlength, part, hperm, hpart⟩ := selectNodes_eq_some hchosen
    refine ⟨hlength, hperm.nodup_iff.mp (hnames.sublist hpart),
      fun name hname => ?_⟩
    exact hpart.subset (hperm.mem_iff.mpr hname)
  oneRoom := by
    rintro ⟨other, hother⟩
    have hsome : bestRoom? preferred free count ≠ none :=
      fun hnone =>
        absurd hother
          (Nat.not_le.mpr ((bestRoom?_eq_none_iff hcount).mp hnone other))
    obtain ⟨room, hroom⟩ := Option.ne_none_iff_exists'.mp hsome
    have hbest := isBestRoom_of_bestRoom? hcount hroom
    have henough : ¬ free.length < count :=
      Nat.not_lt.mpr (hbest.large.trans (List.length_filter_le _ _))
    have hdistinct : ((inRoom free room).map (roomKey preferred)).Nodup := by
      apply nodup_map_of_name (hnames.sublist (List.filter_sublist.map _))
      intro left right hsame
      simp only [roomKey, toLex_inj, Prod.mk.injEq] at hsame
      exact hsame.2.2.2
    refine ⟨room, _, hbest, areFirst_take_mergeSort hdistinct hbest.large, ?_⟩
    rw [selectNodes, if_neg henough, hroom, compareInRoom_eq]
    rfl
  acrossRooms henough hsmall := by
    have hdistinct : (free.map (poolKey preferred)).Nodup := by
      apply nodup_map_of_name hnames
      intro left right hsame
      simp only [poolKey, toLex_inj, Prod.mk.injEq] at hsame
      exact hsame.2.2.2.2
    refine ⟨_, areFirst_take_mergeSort hdistinct henough, ?_⟩
    rw [selectNodes, if_neg (Nat.not_lt.mpr henough),
      (bestRoom?_eq_none_iff hcount).mpr hsmall, compareAcrossRooms_eq]
    rfl

end Choice

section Order

variable {free preferred count} {other : List Node} (hperm : other.Perm free)

include hperm

theorem inRoom_perm (room : String) :
    (inRoom other room).Perm (inRoom free room) :=
  hperm.filter _

private theorem roomRank_of_perm (room : String) :
    roomRank other preferred room = roomRank free preferred room := by
  have hsame := inRoom_perm hperm room
  simp only [roomRank, hsame.length_eq, hsame.mem_iff]

/-- Two rooms that are the best of the same nodes are the same. -/
theorem IsBestRoom.eq_of_perm {left right : String}
    (hleft : IsBestRoom other preferred count left)
    (hright : IsBestRoom free preferred count right) : left = right := by
  have hlength :
      ∀ room, (inRoom other room).length = (inRoom free room).length :=
    fun room => (inRoom_perm hperm room).length_eq
  have hle := hleft.least right (hlength right ▸ hright.large)
  have hge := hright.least left (hlength left ▸ hleft.large)
  rw [roomRank_of_perm hperm, roomRank_of_perm hperm] at hle
  have hsame := le_antisymm hle hge
  simp only [roomRank, toLex_inj, Prod.mk.injEq] at hsame
  exact hsame.2.2

/-- The choice is determined by which nodes are free. -/
theorem LocalChoice.eq_of_perm {answer expected : Option (List NodeName)}
    (hanswer : LocalChoice other preferred count answer)
    (hexpected : LocalChoice free preferred count expected) :
    answer = expected := by
  by_cases hfew : free.length < count
  · rw [hexpected.none_iff.mpr hfew,
      hanswer.none_iff.mpr (hperm.length_eq ▸ hfew)]
  by_cases hlarge : ∃ room, count ≤ (inRoom free room).length
  · have hlarge' : ∃ room, count ≤ (inRoom other room).length := by
      simpa only [(inRoom_perm hperm _).length_eq] using hlarge
    obtain ⟨room, nodes, hbest, hfirst, rfl⟩ := hexpected.oneRoom hlarge
    obtain ⟨room', nodes', hbest', hfirst', rfl⟩ := hanswer.oneRoom hlarge'
    obtain rfl := hbest'.eq_of_perm hperm hbest
    rw [hfirst'.eq_of_mem_iff hfirst fun _ => (inRoom_perm hperm room').mem_iff]
  · have hsmall : ∀ room, (inRoom free room).length < count := by
      simpa only [not_exists, Nat.not_le] using hlarge
    have hsmall' : ∀ room, (inRoom other room).length < count := by
      simpa only [(inRoom_perm hperm _).length_eq] using hsmall
    obtain ⟨nodes, hfirst, rfl⟩ :=
      hexpected.acrossRooms (Nat.not_lt.mp hfew) hsmall
    obtain ⟨nodes', hfirst', rfl⟩ := hanswer.acrossRooms
      (hperm.length_eq ▸ Nat.not_lt.mp hfew) hsmall'
    rw [hfirst'.eq_of_mem_iff hfirst fun _ => hperm.mem_iff]

end Order

/-- Nodes for training work are chosen by locality, in whatever order the free
ones are listed. -/
theorem selectNodes_local (hnames : (free.map Node.name).Nodup)
    (hcount : 1 ≤ count) :
    LocalChoice free preferred count (selectNodes free preferred count) ∧
      ∀ other, other.Perm free →
        selectNodes other preferred count =
          selectNodes free preferred count := by
  refine ⟨localChoice_selectNodes hnames hcount, fun other hperm => ?_⟩
  have hotherNames : (other.map Node.name).Nodup :=
    (hperm.map Node.name).nodup_iff.mpr hnames
  exact (localChoice_selectNodes hotherNames hcount).eq_of_perm hperm
    (localChoice_selectNodes hnames hcount)

/-- Two rooms, and the larger one has the only node of its leaf. -/
def twoRooms : List Node :=
  [{ name := ⟨"a1"⟩, room := "room1", leaf := "l1" },
    { name := ⟨"a2"⟩, room := "room1", leaf := "l1" },
    { name := ⟨"b1"⟩, room := "room2", leaf := "l1" },
    { name := ⟨"b2"⟩, room := "room2", leaf := "l2" },
    { name := ⟨"b3"⟩, room := "room2", leaf := "l1" }]

/-- A node that was freed for the task draws it into the larger room. -/
theorem selectNodes_local_freedNode :
    selectNodes twoRooms [⟨"b2"⟩] 2 = some [⟨"b2"⟩, ⟨"b1"⟩] ∧
      LocalChoice twoRooms [⟨"b2"⟩] 2 (some [⟨"b2"⟩, ⟨"b1"⟩]) ∧
      selectNodes twoRooms.reverse [⟨"b2"⟩] 2 = some [⟨"b2"⟩, ⟨"b1"⟩] := by
  have hchosen : selectNodes twoRooms [⟨"b2"⟩] 2 = some [⟨"b2"⟩, ⟨"b1"⟩] := by
    cbv
  obtain ⟨hlocal, hsame⟩ :=
    selectNodes_local twoRooms [⟨"b2"⟩] 2 (by decide) (by decide)
  rw [hchosen] at hlocal hsame
  exact ⟨hchosen, hlocal, hsame _ (List.reverse_perm _)⟩

end ClusterTick.Placement
