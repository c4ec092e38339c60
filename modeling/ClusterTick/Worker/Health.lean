import ClusterTick.Model.Identifier
import ClusterTick.Time.Instant

/-!
# Health of the ticks

How long the recent ticks took.  The window keeps, for the last ticks up to its
capacity, whether each took longer than the threshold.  Nothing here has an
influence on decisions.
-/

namespace ClusterTick

/-- The recent ticks, the oldest first, and whether each ran over. -/
structure SlaWindow where
  threshold : Span
  capacity : Nat
  overruns : List Bool
  capacity_pos : 0 < capacity
  length_le : overruns.length ≤ capacity
  deriving DecidableEq, Repr

/-- What was measured in one tick. -/
structure TickMetrics where
  seq : SnapshotSeq
  /-- From the taking of the snapshot to the decision. -/
  decisionLatency : Span
  /-- The time spent on matching. -/
  matchLatency : Span
  overrun : Bool
  /-- How many ticks of the window ran over, this one included. -/
  slaTicks : Nat
  deriving DecidableEq, Repr, Inhabited

/-- The window and the last measurement. -/
structure TickHealth where
  window : SlaWindow
  last : Option TickMetrics
  deriving DecidableEq, Repr

namespace SlaWindow

/-- An empty window; its capacity is at least one. -/
def empty (threshold : Span) (capacity : Nat) : SlaWindow where
  threshold
  capacity := max capacity 1
  overruns := []
  capacity_pos := by omega
  length_le := Nat.zero_le _

/-- The matching time that a tick may take unless a configuration says
otherwise. -/
def defaultThreshold : Span := Span.ofMilliseconds 1000

def defaultCapacity : Nat := 60

def standard : SlaWindow := empty defaultThreshold defaultCapacity

instance : Inhabited SlaWindow := ⟨standard⟩

/-- Whether a tick of the given length runs over. -/
def isOverrun (window : SlaWindow) (latency : Span) : Bool :=
  window.threshold.nanoseconds < latency.nanoseconds

/-- The window without its oldest tick, if it is full. -/
def withRoom (window : SlaWindow) : List Bool :=
  if window.overruns.length = window.capacity then window.overruns.drop 1
  else window.overruns

/-- The window after one more tick. -/
def record (window : SlaWindow) (latency : Span) : SlaWindow where
  threshold := window.threshold
  capacity := window.capacity
  overruns := window.withRoom ++ [window.isOverrun latency]
  capacity_pos := window.capacity_pos
  length_le := by
    have hpos := window.capacity_pos
    have hle := window.length_le
    simp only [withRoom]
    split <;> simp <;> omega

/-- How many ticks of the window ran over. -/
def count (window : SlaWindow) : Nat :=
  (window.overruns.filter fun overrun => overrun).length

/-- How many ticks the window holds. -/
def size (window : SlaWindow) : Nat := window.overruns.length

def isEmpty (window : SlaWindow) : Bool := window.overruns.isEmpty

end SlaWindow

namespace TickHealth

/-- The health before the first tick. -/
def ofWindow (window : SlaWindow) : TickHealth := ⟨window, none⟩

instance : Inhabited TickHealth := ⟨ofWindow .standard⟩

/-- The measurement of a tick, given the window after it. -/
def measure (window : SlaWindow) (seq : SnapshotSeq)
    (takenAt decidedAt : Instant) (matchLatency : Span) : TickMetrics :=
  { seq
    decisionLatency := decidedAt.elapsedSince takenAt
    matchLatency
    overrun := window.isOverrun matchLatency
    slaTicks := window.count }

/-- The health after one more tick, and the measurement of that tick. -/
def record (health : TickHealth) (seq : SnapshotSeq)
    (takenAt decidedAt : Instant) (matchLatency : Span) :
    TickHealth × TickMetrics :=
  let window := health.window.record matchLatency
  let metrics := measure window seq takenAt decidedAt matchLatency
  (⟨window, some metrics⟩, metrics)

/-- How many recent ticks ran over. -/
def slaTicks (health : TickHealth) : Nat := health.window.count

end TickHealth

end ClusterTick
