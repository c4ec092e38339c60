import ClusterTick.Time.Instant

/-!
# Stage timings

How long the stages of a tick took.  A tick is timed by its two matching passes,
a profile by its rules.
-/

namespace ClusterTick

/-- The stages of a tick. -/
structure StageTimings where
  preAssign : Span := .zero
  rules : Span := .zero
  validation : Span := .zero
  training : Span := .zero
  deriving DecidableEq, Repr, Inhabited

/-- The stages of a profiled tick, each rule on its own. -/
structure StageProfile where
  preAssign : Span := .zero
  withinLimits : Span := .zero
  running : Span := .zero
  waiting : Span := .zero
  matching : Span := .zero
  deriving DecidableEq, Repr, Inhabited

namespace StageTimings

/-- The time spent on matching. -/
def matching (timings : StageTimings) : Span :=
  timings.validation + timings.training

def total (timings : StageTimings) : Span :=
  timings.preAssign + timings.rules + timings.matching

end StageTimings

namespace StageProfile

def total (profile : StageProfile) : Span :=
  profile.preAssign + profile.withinLimits + profile.running + profile.waiting +
    profile.matching

instance : Add StageProfile where
  add left right := {
    preAssign := left.preAssign + right.preAssign
    withinLimits := left.withinLimits + right.withinLimits
    running := left.running + right.running
    waiting := left.waiting + right.waiting
    matching := left.matching + right.matching }

/-- The mean of a positive number of profiles with the given sum. -/
def dividedBy (profile : StageProfile) (count : Nat) : StageProfile where
  preAssign := profile.preAssign.dividedBy count
  withinLimits := profile.withinLimits.dividedBy count
  running := profile.running.dividedBy count
  waiting := profile.waiting.dividedBy count
  matching := profile.matching.dividedBy count

end StageProfile

end ClusterTick
