import ClusterTick.Worker.Memory

/-!
# A worker on a clock

The tick loop against collaborators in memory and a clock of milliseconds.  The
first tick comes at once, then one after every interval until the loop is told
to stop.  A tick takes no time.
-/

namespace ClusterTick

/-- A running loop. -/
structure ClockedWorker where
  worker : Worker
  cluster : MemoryCluster
  /-- The time from one tick to the next. -/
  interval : Nat
  /-- When the next tick is due. -/
  nextTick : Nat := 0
  stopped : Bool := false
  deriving DecidableEq, Repr

namespace ClockedWorker

/-- One tick in memory. -/
def tick (state : ClockedWorker) : ClockedWorker :=
  let ((worker, _), cluster) :=
    state.worker.tick MemoryCluster.collaborators ⟨⟨0⟩, .zero⟩
      |>.run state.cluster
  { state with worker, cluster, nextTick := state.nextTick + state.interval }

/-- How many ticks are due before a time. -/
def dueBefore (state : ClockedWorker) (time : Nat) : Nat :=
  if state.stopped then 0
  else (time - state.nextTick + (state.interval - 1)) / state.interval

/-- The loop at a time, all ticks before it done. -/
def advanceTo (state : ClockedWorker) (time : Nat) : ClockedWorker :=
  (List.range (state.dueBefore time)).foldl (fun state _ => state.tick) state

/-- The loop after an event for its collaborators. -/
def feed (state : ClockedWorker) (event : MemoryEvent) : ClockedWorker :=
  { state with cluster := event.apply state.cluster }

/-- The loop after a shutdown signal; the value `false` changes nothing. -/
def signal (state : ClockedWorker) (stop : Bool) : ClockedWorker :=
  { state with stopped := state.stopped || stop }

end ClockedWorker

end ClusterTick
