import ClusterTick.Worker.Health
import Mathlib.Data.List.DropRight
import Mathlib.Data.List.Induction

/-!
# What a window remembers

A window of ticks says what the last latencies were like, as many as it holds,
and nothing of those before them.  The health of the ticks reads the window
after each tick, so a measurement counts its own tick, and what is read later is
what was measured last.
-/

namespace ClusterTick

namespace SlaWindow

/-- The window after a sequence of ticks with the given latencies. -/
def recordAll (window : SlaWindow) (latencies : List Span) : SlaWindow :=
  latencies.foldl record window

/-- How many of the last latencies, as many as a window of the capacity holds,
are above the threshold. -/
def recentOverruns (threshold : Span) (capacity : Nat) (latencies : List Span) :
    Nat :=
  (latencies.rtake capacity).countP fun latency =>
    threshold.nanoseconds < latency.nanoseconds

/-- A window remembers the latencies that were recorded, so far back as it
reaches. -/
structure Remembers (window : SlaWindow) (threshold : Span) (capacity : Nat)
    (latencies : List Span) : Prop where
  threshold : window.threshold = threshold
  capacity : window.capacity = capacity
  overruns :
    window.overruns = (latencies.rtake window.capacity).map window.isOverrun

section Window

variable {window : SlaWindow} {threshold : Span} {capacity : Nat}
  {latencies : List Span}

theorem remembers_empty :
    (empty threshold capacity).Remembers threshold (max capacity 1) [] where
  threshold := rfl
  capacity := rfl
  overruns := by
    rw [List.rtake_nil]
    rfl

/-- What is left when room is made falls short of a full window by one tick. -/
theorem Remembers.withRoom_eq
    (hwindow : window.Remembers threshold capacity latencies) :
    window.withRoom =
      (latencies.rtake (window.capacity - 1)).map window.isOverrun := by
  have hpos := window.capacity_pos
  have hlength : window.overruns.length =
      latencies.length - (latencies.length - window.capacity) := by
    rw [hwindow.overruns, List.length_map, List.rtake, List.length_drop]
  rw [withRoom, hlength]
  split
  case isTrue hfull =>
    have hnext : latencies.length - window.capacity + 1 =
        latencies.length - (window.capacity - 1) := by omega
    rw [hwindow.overruns, ← List.map_drop, List.rtake, List.drop_drop, hnext,
      List.rtake]
  case isFalse hroom =>
    have hall : latencies.length - window.capacity =
        latencies.length - (window.capacity - 1) := by omega
    rw [hwindow.overruns, List.rtake, hall, List.rtake]

theorem Remembers.record
    (hwindow : window.Remembers threshold capacity latencies) (latency : Span) :
    (window.record latency).Remembers threshold capacity
      (latencies ++ [latency]) where
  threshold := hwindow.threshold
  capacity := hwindow.capacity
  overruns := by
    have hpos := window.capacity_pos
    have hcapacity :
        (window.record latency).capacity = window.capacity - 1 + 1 := by
      rw [Nat.sub_add_cancel hpos]
      rfl
    rw [hcapacity, List.rtake_concat_succ, List.map_append]
    exact congrArg (· ++ [window.isOverrun latency]) hwindow.withRoom_eq

theorem Remembers.recordAll
    (hwindow : window.Remembers threshold capacity latencies)
    (later : List Span) :
    (window.recordAll later).Remembers threshold capacity
      (latencies ++ later) := by
  induction later generalizing window latencies with
  | nil =>
    rw [List.append_nil]
    exact hwindow
  | cons latency rest ih =>
    rw [List.append_cons]
    exact ih (hwindow.record latency)

theorem Remembers.size_eq
    (hwindow : window.Remembers threshold capacity latencies) :
    window.size = min latencies.length capacity := by
  rw [size, hwindow.overruns, hwindow.capacity, List.length_map, List.rtake,
    List.length_drop]
  omega

theorem Remembers.count_eq
    (hwindow : window.Remembers threshold capacity latencies) :
    window.count = recentOverruns threshold capacity latencies := by
  rw [count, hwindow.overruns, hwindow.capacity, ← List.countP_eq_length_filter,
    List.countP_map, recentOverruns, ← hwindow.threshold]
  rfl

end Window

end SlaWindow

/-- What a tick says of itself when it is recorded. -/
structure TickReport where
  seq : SnapshotSeq
  takenAt : Instant
  decidedAt : Instant
  matchLatency : Span

/-- What is to be measured in a tick, given the latencies of the ticks before
it. -/
structure TickReport.Measured (report : TickReport) (threshold : Span)
    (capacity : Nat) (earlier : List Span) (metrics : TickMetrics) : Prop where
  seq : metrics.seq = report.seq
  /-- A snapshot that was taken after the decision, by another clock, is not
  old. -/
  decisionLatency : (metrics.decisionLatency.nanoseconds : Int) =
    max 0 (report.decidedAt.nanoseconds - report.takenAt.nanoseconds)
  matchLatency : metrics.matchLatency = report.matchLatency
  overrun :
    metrics.overrun ↔ threshold.nanoseconds < report.matchLatency.nanoseconds
  slaTicks : metrics.slaTicks =
    SlaWindow.recentOverruns threshold capacity
      (earlier ++ [report.matchLatency])

/-- What is to be measured in one tick after the other. -/
inductive MeasuredInTurn (threshold : Span) (capacity : Nat) :
    (earlier : List Span) → List TickReport → List TickMetrics → Prop
  | none (earlier : List Span) : MeasuredInTurn threshold capacity earlier [] []
  | next {earlier : List Span} {report : TickReport} {metrics : TickMetrics}
      {reports : List TickReport} {later : List TickMetrics}
      (hmeasured : report.Measured threshold capacity earlier metrics)
      (hlater : MeasuredInTurn threshold capacity
        (earlier ++ [report.matchLatency]) reports later) :
      MeasuredInTurn threshold capacity earlier (report :: reports)
        (metrics :: later)

namespace TickHealth

/-- The health after a sequence of ticks, and what was measured in each. -/
def recordAll (health : TickHealth) :
    List TickReport → TickHealth × List TickMetrics
  | [] => (health, [])
  | report :: rest =>
    let (next, metrics) :=
      health.record report.seq report.takenAt report.decidedAt
        report.matchLatency
    let (last, later) := next.recordAll rest
    (last, metrics :: later)

/-- What is read from the health is what was measured last. -/
structure ReadsLast (health : TickHealth) (measured : List TickMetrics) :
    Prop where
  last : health.last = measured.getLast?
  slaTicks : ∀ metrics ∈ measured.getLast?, health.slaTicks = metrics.slaTicks

section Health

variable {health : TickHealth} {threshold : Span} {capacity : Nat}
  {earlier : List Span}

/-- One tick is measured with the window after it. -/
theorem measured_record
    (hwindow : health.window.Remembers threshold capacity earlier)
    (report : TickReport) :
    report.Measured threshold capacity earlier
      (health.record report.seq report.takenAt report.decidedAt
        report.matchLatency).2 where
  seq := rfl
  decisionLatency := by
    show ((report.decidedAt.nanoseconds -
        report.takenAt.nanoseconds).toNat : Int) = _
    omega
  matchLatency := rfl
  overrun := by
    rw [← hwindow.threshold]
    exact decide_eq_true_iff
  slaTicks := (hwindow.record report.matchLatency).count_eq

/-- So are all, and the window remembers them when it is read later. -/
theorem measuredInTurn_recordAll
    (hwindow : health.window.Remembers threshold capacity earlier)
    (reports : List TickReport) :
    MeasuredInTurn threshold capacity earlier reports
        (health.recordAll reports).2 ∧
      (health.recordAll reports).1.window.Remembers threshold capacity
        (earlier ++ reports.map TickReport.matchLatency) := by
  induction reports generalizing health earlier with
  | nil =>
    rw [List.map_nil, List.append_nil]
    exact ⟨.none earlier, hwindow⟩
  | cons report rest ih =>
    let next :=
      (health.record report.seq report.takenAt report.decidedAt
        report.matchLatency).1
    have hnext : next.window.Remembers threshold capacity
        (earlier ++ [report.matchLatency]) :=
      hwindow.record report.matchLatency
    obtain ⟨hlater, hlast⟩ := ih hnext
    rw [List.map_cons, List.append_cons]
    exact ⟨.next (measured_record hwindow report) hlater, hlast⟩

/-- The last measurement is kept. -/
theorem last_recordAll (health : TickHealth) (reports : List TickReport) :
    (health.recordAll reports).1.last =
      (health.recordAll reports).2.getLast?.or health.last := by
  induction reports generalizing health with
  | nil => rfl
  | cons report rest ih =>
    let next :=
      health.record report.seq report.takenAt report.decidedAt
        report.matchLatency
    calc
      (health.recordAll (report :: rest)).1.last =
          (next.1.recordAll rest).1.last :=
        rfl
      _ = (next.1.recordAll rest).2.getLast?.or (some next.2) := ih next.1
      _ = some ((next.1.recordAll rest).2.getLast?.getD next.2) :=
        Option.or_some
      _ = (next.2 :: (next.1.recordAll rest).2).getLast?.or health.last := by
        rw [List.getLast?_cons, Option.some_or]

/-- The count that is read later is that of the measurement that is kept. -/
theorem slaTicks_recordAll (hcurrent : ∀ metrics ∈ health.last,
    health.slaTicks = metrics.slaTicks) (reports : List TickReport) :
    ∀ metrics ∈ (health.recordAll reports).1.last,
      (health.recordAll reports).1.slaTicks = metrics.slaTicks := by
  induction reports generalizing health with
  | nil => exact hcurrent
  | cons report rest ih =>
    apply ih
    rintro metrics ⟨⟩
    rfl

/-- Before the first tick nothing is kept. -/
theorem readsLast_recordAll (window : SlaWindow) (reports : List TickReport) :
    ((ofWindow window).recordAll reports).1.ReadsLast
      ((ofWindow window).recordAll reports).2 := by
  have hlast : ((ofWindow window).recordAll reports).1.last =
      ((ofWindow window).recordAll reports).2.getLast? :=
    (last_recordAll (ofWindow window) reports).trans Option.or_none
  refine ⟨hlast, ?_⟩
  rw [← hlast]
  exact slaTicks_recordAll (by rintro metrics ⟨⟩) reports

end Health

/-- A window of ticks holds the recent past and nothing else.  After any
sequence of latencies it counts those above the threshold among the last ones.
A tick that is measured with it counts itself, and what is read later is what
was measured last. -/
theorem remembers_recent_past (threshold : Span) (capacity : Nat)
    (latencies : List Span) (reports : List TickReport) :
    let reach := max capacity 1
    let window := (SlaWindow.empty threshold capacity).recordAll latencies
    let run := (ofWindow window).recordAll reports
    window.size = min latencies.length reach ∧
      window.count = SlaWindow.recentOverruns threshold reach latencies ∧
      MeasuredInTurn threshold reach latencies reports run.2 ∧
      run.1.slaTicks = SlaWindow.recentOverruns threshold reach
        (latencies ++ reports.map TickReport.matchLatency) ∧
      run.1.ReadsLast run.2 := by
  intro reach window run
  have hwindow : (ofWindow window).window.Remembers threshold reach latencies :=
    SlaWindow.remembers_empty.recordAll latencies
  obtain ⟨hmeasured, hafter⟩ := measuredInTurn_recordAll hwindow reports
  exact ⟨hwindow.size_eq, hwindow.count_eq, hmeasured, hafter.count_eq,
    readsLast_recordAll window reports⟩

/-- A third tick drops the first overrun from a window of two. -/
example : ((SlaWindow.empty (Span.ofMilliseconds 100) 2).recordAll
    ([150, 150, 100].map Span.ofMilliseconds)).count = 1 := by
  decide

end TickHealth

end ClusterTick
