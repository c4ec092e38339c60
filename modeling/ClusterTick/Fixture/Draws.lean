import ClusterTick.Json.Record
import ClusterTick.Numeric.Binary64

/-!
# Draws

Everything that chance decides about a generated snapshot, apart from the rule
that builds the snapshot from it.  A value of `Draws` is any outcome that can
occur; `Draws.ofSeed` is the one that belongs to a seed.
-/

namespace ClusterTick

/-- The shape of a generated snapshot. -/
structure GeneratorConfig where
  userCount : UInt64 := 10
  tasksPerUser : UInt64 := 200
  nodeCount : UInt64 := 1200
  seed : UInt64 := 0
  /-- The share of the tasks that wait in the queue.  The others run when enough
  nodes are left. -/
  queuedRatio : Binary64 := .ofRatio 1 10
  /-- The share of the tasks that need many nodes. -/
  bigTaskRatio : Binary64 := .ofRatio 1 10
  deriving DecidableEq, Repr, Inhabited

namespace GeneratorConfig

def fieldNames : List String :=
  ["user_count", "tasks_per_user", "node_count", "seed", "queued_ratio",
    "big_task_ratio"]

instance : JsonForm GeneratorConfig where
  toJson config := .object [
    ("user_count", JsonForm.toJson config.userCount),
    ("tasks_per_user", JsonForm.toJson config.tasksPerUser),
    ("node_count", JsonForm.toJson config.nodeCount),
    ("seed", JsonForm.toJson config.seed),
    ("queued_ratio", JsonForm.toJson config.queuedRatio),
    ("big_task_ratio", JsonForm.toJson config.bigTaskRatio)]
  ofJson? json := do
    let fields ← Fields.read? fieldNames json
    return {
      userCount := ← fields.required "user_count"
      tasksPerUser := ← fields.required "tasks_per_user"
      nodeCount := ← fields.required "node_count"
      seed := ← fields.required "seed"
      queuedRatio := ← fields.required "queued_ratio"
      bigTaskRatio := ← fields.required "big_task_ratio" }
  shape := .ofNames fieldNames

end GeneratorConfig

/-- Whether an event of the given probability can turn out this way: what is
impossible does not happen, and what is certain does. -/
def CanHappen (probability : Binary64) (happens : Bool) : Prop :=
  (probability.isZero = true → happens = false) ∧
    (probability = .ofNat 1 → happens = true)

/-- The quota of a user. -/
structure QuotaDraw where
  amount : Nat
  /-- Some users have far more than there are nodes. -/
  amount_mem : (1 ≤ amount ∧ amount ≤ 1000) ∨ (10000 ≤ amount ∧ amount ≤ 100000)

/-- What chance decides about a task. -/
structure TaskDraw (config : GeneratorConfig) where
  isBig : Bool
  /-- The number of nodes that the task needs. -/
  wanted : Nat
  /-- The task waits even if it could run. -/
  isQueued : Bool
  runningSeconds : Nat
  isBig_canHappen : CanHappen config.bigTaskRatio isBig
  wanted_mem :
    if isBig then 30 ≤ wanted ∧ wanted ≤ 60 else 1 ≤ wanted ∧ wanted ≤ 10
  isQueued_canHappen : CanHappen config.queuedRatio isQueued
  runningSeconds_le : runningSeconds ≤ 3600

/-- One outcome of all draws. -/
structure Draws (config : GeneratorConfig) where
  /-- Whether a node stands in the first room. -/
  inFirstRoom : Nat → Bool
  quota : Nat → QuotaDraw
  /-- The nodes in the order in which they are handed out, the last one
  first. -/
  pool : List Nat
  pool_perm : pool.Perm (List.range config.nodeCount.toNat)
  /-- By user and by position among the tasks of the user. -/
  task : Nat → Nat → TaskDraw config

namespace Draws

/-- Spreads the bits of a word so that neighbouring words have unlike images. -/
def scramble (word : UInt64) : UInt64 :=
  let first := (word ^^^ (word >>> 30)) * 0xbf58476d1ce4e5b9
  let second := (first ^^^ (first >>> 27)) * 0x94d049bb133111eb
  second ^^^ (second >>> 31)

/-- What a word is drawn for. -/
inductive Purpose where
  | room
  | quotaKind
  | quota
  | pool
  | taskKind
  | wanted
  | queued
  | runningSeconds
  deriving DecidableEq, Repr

/-- The word of a seed for one purpose and one row.  Each pair has a counter
value of its own. -/
def word (seed : UInt64) (purpose : Purpose) (row : Nat) : UInt64 :=
  scramble
    (seed + 0x9e3779b97f4a7c15 * UInt64.ofNat (8 * row + purpose.ctorIdx + 1))

/-- A word as an event of the given probability. -/
def event (probability : Binary64) (word : UInt64) : Bool :=
  word.toNat * probability.ratio.2 < probability.ratio.1 * UInt64.size

/-- A word as a number between two bounds. -/
def between (low high : Nat) (word : UInt64) : Nat :=
  low + word.toNat % (high + 1 - low)

theorem canHappen_event (probability : Binary64) (word : UInt64) :
    CanHappen probability (event probability word) := by
  refine ⟨fun zero => ?_, fun one => ?_⟩
  · have magnitude : probability.magnitude = 0 := by
      simpa [Binary64.isZero] using zero
    have significand : probability.significand = 0 := by
      simp [Binary64.significand, magnitude]
    have ratio : probability.ratio.1 = 0 := by
      unfold Binary64.ratio
      split <;> simp [significand]
    simp [event, ratio]
  · subst one
    have ratio :
        (Binary64.ofNat 1).ratio = (4503599627370496, 4503599627370496) := by
      decide +kernel
    have bound := word.toNat_lt
    simp only [event, ratio, UInt64.size, decide_eq_true_eq]
    omega

theorem between_mem {low high : Nat} (ordered : low ≤ high) (word : UInt64) :
    low ≤ between low high word ∧ between low high word ≤ high := by
  have bound := Nat.mod_lt word.toNat (show high + 1 - low > 0 by omega)
  simp only [between]
  omega

/-- The quota that belongs to a seed; nine users in ten have a small one. -/
def quotaOfSeed (seed : UInt64) (user : Nat) : QuotaDraw :=
  if event (.ofRatio 9 10) (word seed .quotaKind user) then
    ⟨between 1 1000 (word seed .quota user), .inl (between_mem (by decide) _)⟩
  else
    ⟨between 10000 100000 (word seed .quota user),
      .inr (between_mem (by decide) _)⟩

/-- The task that belongs to a seed. -/
def taskOfSeed (config : GeneratorConfig) (row : Nat) : TaskDraw config :=
  let isBig := event config.bigTaskRatio (word config.seed .taskKind row)
  let size := word config.seed .wanted row
  { isBig
    wanted := if isBig then between 30 60 size else between 1 10 size
    isQueued := event config.queuedRatio (word config.seed .queued row)
    runningSeconds := between 0 3600 (word config.seed .runningSeconds row)
    isBig_canHappen := canHappen_event _ _
    wanted_mem := by
      cases isBig
      · exact between_mem (by decide) size
      · exact between_mem (by decide) size
    isQueued_canHappen := canHappen_event _ _
    runningSeconds_le := (between_mem (by decide) _).2 }

/-- The nodes sorted by words of a seed. -/
def poolOfSeed (config : GeneratorConfig) : List Nat :=
  (List.range config.nodeCount.toNat).mergeSort fun left right =>
    word config.seed .pool left ≤ word config.seed .pool right

/-- The outcome that belongs to the seed of a configuration. -/
def ofSeed (config : GeneratorConfig) : Draws config where
  inFirstRoom node := event (.ofRatio 1 2) (word config.seed .room node)
  quota := quotaOfSeed config.seed
  pool := poolOfSeed config
  pool_perm := List.mergeSort_perm _ _
  task user index :=
    taskOfSeed config (user * config.tasksPerUser.toNat + index)

end Draws

end ClusterTick
