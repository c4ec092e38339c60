import ClusterTick.Json.Record

/-!
# Priority tiers

The named bands of task priority.  Quotas are granted by tier, so every
priority belongs to exactly one: a value without a band of its own counts as
automatic.
-/

namespace ClusterTick

/-- A named band of priority, from the most urgent down.  `unknown` stands for a
name that is no tier; no task has it. -/
inductive PriorityTier where
  | extremeHigh
  | veryHigh
  | high
  | aboveNormal
  | normal
  | belowNormal
  | low
  | auto
  | unknown
  deriving DecidableEq, Repr, Inhabited

/-- The priority by which a task leaves the choice to the scheduler. -/
def autoPriority : Int32 := -1

namespace PriorityTier

/-- The tiers that tasks and quotas name. -/
def named : List PriorityTier :=
  [extremeHigh, veryHigh, high, aboveNormal, normal, belowNormal, low, auto]

/-- The priority value of a tier. -/
def value? : PriorityTier → Option Int32
  | extremeHigh => some 50
  | veryHigh => some 40
  | high => some 30
  | aboveNormal => some 20
  | normal => some 10
  | belowNormal => some 0
  | low => some (-10)
  | auto => some autoPriority
  | unknown => none

def name : PriorityTier → String
  | extremeHigh => "EXTREME_HIGH"
  | veryHigh => "VERY_HIGH"
  | high => "HIGH"
  | aboveNormal => "ABOVE_NORMAL"
  | normal => "NORMAL"
  | belowNormal => "BELOW_NORMAL"
  | low => "LOW"
  | auto => "AUTO"
  | unknown => "UNKNOWN"

/-- The tier of a priority value. -/
def ofValue (value : Int32) : PriorityTier :=
  (named.find? fun tier => tier.value? = some value).getD auto

/-- The tier with a name, as quotas write it. -/
def ofName (text : String) : PriorityTier :=
  (named.find? fun tier => tier.name = text).getD unknown

/-- Place of a tier among all tiers, the most urgent first. -/
def position : PriorityTier → Nat
  | extremeHigh => 0
  | veryHigh => 1
  | high => 2
  | aboveNormal => 3
  | normal => 4
  | belowNormal => 5
  | low => 6
  | auto => 7
  | unknown => 8

/-- The tier at a place. -/
def atPosition : Nat → PriorityTier
  | 0 => extremeHigh
  | 1 => veryHigh
  | 2 => high
  | 3 => aboveNormal
  | 4 => normal
  | 5 => belowNormal
  | 6 => low
  | 7 => auto
  | _ => unknown

private theorem atPosition_position (tier : PriorityTier) :
    atPosition tier.position = tier := by
  cases tier <;> rfl

theorem position_injective {left right : PriorityTier}
    (h : left.position = right.position) : left = right := by
  rw [← atPosition_position left, h, atPosition_position]

instance : Ord PriorityTier := ⟨compareOn position⟩

instance : Std.TransOrd PriorityTier :=
  inferInstanceAs (Std.TransCmp (compareOn position))

instance : Std.LawfulEqOrd PriorityTier where
  compare_self {tier} := Std.ReflOrd.compare_self (a := tier.position)
  eq_of_compare h := position_injective (Std.LawfulEqOrd.eq_of_compare h)

instance : JsonForm PriorityTier where
  toJson tier := .string tier.name
  ofJson? json := json.choice? (named ++ [unknown]) name

end PriorityTier

end ClusterTick
