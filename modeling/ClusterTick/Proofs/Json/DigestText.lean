import ClusterTick.Model.Assignment
import ClusterTick.Proofs.Json.CanonicalForm
import ClusterTick.Proofs.Json.FaithfulForm

/-!
# The text behind a digest

The digest of an assignment is the hash of a text, and this text tells
everything that was decided: two assignments with different decisions never
reach the hash with one text, and two that differ only in the time of decision
always do.
-/

namespace ClusterTick

/-- Tasks that agree in every field, where custom ranks are compared as they are
printed. -/
@[mk_iff]
structure Task.PrintsLike (left right : Task) : Prop where
  customRank :
    left.customRank.map Binary64.text = right.customRank.map Binary64.text
  others : { left with customRank := right.customRank } = right

/-- Assignments that agree in every field but the time of decision, where custom
ranks are compared as they are printed. -/
@[mk_iff]
structure Assignment.DecidesLike (left right : Assignment) : Prop where
  tasks : List.Forall₂ Task.PrintsLike left.tasks right.tasks
  others :
    { left with decidedAt := right.decidedAt, tasks := right.tasks } = right

/-- A task whose custom rank, if it has one, is a number. -/
def Task.HasFiniteRank (task : Task) : Prop :=
  ∀ rank ∈ task.customRank, rank.isFinite

def Assignment.HasFiniteRanks (assignment : Assignment) : Prop :=
  ∀ task ∈ assignment.tasks, task.HasFiniteRank

namespace Json

theorem hasDistinctKeys_rank (rank : Option Binary64) :
    (JsonForm.toJson rank).HasDistinctKeys := by
  cases rank with
  | none => simp only [JsonForm.toJson, HasDistinctKeys]
  | some rank =>
    simp only [JsonForm.toJson]
    split <;> simp only [HasDistinctKeys]

/-- Ranks that are numbers have alike forms if they print alike; an absent rank
has a form that no number has. -/
theorem alike_rank_iff {left right : Option Binary64}
    (hleft : ∀ rank ∈ left, rank.isFinite)
    (hright : ∀ rank ∈ right, rank.isFinite) :
    (JsonForm.toJson left).Alike (JsonForm.toJson right) ↔
      left.map Binary64.text = right.map Binary64.text := by
  cases left with
  | none =>
    cases right with
    | none => simp [JsonForm.toJson, Alike]
    | some right => simp [JsonForm.toJson, Alike, hright right rfl]
  | some left =>
    cases right with
    | none => simp [JsonForm.toJson, Alike, hleft left rfl]
    | some right =>
      simp [JsonForm.toJson, Alike, JsonNumber.text, hleft left rfl,
        hright right rfl]

end Json

namespace Task

theorem hasDistinctKeys_toJson (task : Task) :
    (JsonForm.toJson task).HasDistinctKeys :=
  Json.hasDistinctKeys_record (by decide : fieldNames.Nodup) rfl
    (by simp [Json.hasDistinctKeys_rank])

theorem alike_toJson_iff {left right : Task} (hleft : left.HasFiniteRank)
    (hright : right.HasFiniteRank) :
    (JsonForm.toJson left).Alike (JsonForm.toJson right) ↔
      left.PrintsLike right := by
  refine (Json.alike_record (by decide : fieldNames.Nodup) rfl rfl).trans ?_
  have hrank := Json.alike_rank_iff hleft hright
  cases left
  cases right
  simp only [Json.AlikeEntries, List.forall₂_cons, FaithfulForm.alike_iff,
    hrank, printsLike_iff, Task.mk.injEq, true_and, and_true, List.Forall₂.nil]
  tauto

end Task

namespace Assignment

/-- The names of what is hashed: all fields but the time of decision. -/
def timelessNames : List String := fieldNames.erase "decided_at"

theorem hasDistinctKeys_timelessJson (assignment : Assignment) :
    assignment.timelessJson.HasDistinctKeys := by
  refine Json.hasDistinctKeys_record (by decide : timelessNames.Nodup) rfl ?_
  have htasks : (JsonForm.toJson assignment.tasks).HasDistinctKeys :=
    FaithfulForm.hasDistinctKeys_list fun task _ => task.hasDistinctKeys_toJson
  simp [outcomeMembers, htasks]

theorem alike_timelessJson_iff {left right : Assignment}
    (hleft : left.HasFiniteRanks) (hright : right.HasFiniteRanks) :
    left.timelessJson.Alike right.timelessJson ↔ left.DecidesLike right := by
  have htasks :
      (JsonForm.toJson left.tasks).Alike (JsonForm.toJson right.tasks) ↔
        List.Forall₂ Task.PrintsLike left.tasks right.tasks := by
    rw [FaithfulForm.alike_list]
    exact Json.forall₂_congr_of_mem fun first hfirst second hsecond =>
      Task.alike_toJson_iff (hleft first hfirst) (hright second hsecond)
  refine (Json.alike_record (by decide : timelessNames.Nodup) rfl rfl).trans ?_
  cases left
  cases right
  simp only [outcomeMembers, Json.AlikeEntries, List.forall₂_cons,
    FaithfulForm.alike_iff, htasks, decidesLike_iff, Assignment.mk.injEq,
    true_and, and_true, List.Forall₂.nil]
  tauto

/-- Assignments that agree in every field but the time of decision have one
digest. -/
theorem digest_eq_of_decidesLike {left right : Assignment}
    (hleft : left.HasFiniteRanks) (hright : right.HasFiniteRanks)
    (hlike : left.DecidesLike right) : left.digest = right.digest := by
  have htext : left.timelessJson.canonical = right.timelessJson.canonical :=
    (Json.canonical_eq_iff right.hasDistinctKeys_timelessJson).mpr
      ((alike_timelessJson_iff hleft hright).mpr hlike)
  unfold digest Json.digest
  rw [htext]

/-- The canonical text of a value with distinct keys tells the value up to the
order of members, and the text that is hashed for an assignment tells every
field but the time of decision, custom ranks as they are printed.  For the first
part it is enough that one of the two values has distinct keys. -/
theorem hashedText_faithful :
    (∀ left right : Json, right.HasDistinctKeys →
        (left.canonical = right.canonical ↔ left.Alike right)) ∧
      ∀ left right : Assignment, left.HasFiniteRanks → right.HasFiniteRanks →
        (left.timelessJson.canonical = right.timelessJson.canonical ↔
          left.DecidesLike right) := by
  constructor
  · intro left right hdistinct
    exact Json.canonical_eq_iff hdistinct
  · intro left right hleft hright
    rw [Json.canonical_eq_iff right.hasDistinctKeys_timelessJson]
    exact alike_timelessJson_iff hleft hright

/-- One decision, written in two orders of members. -/
def announced : Json := .object [("seq", .ofNat 2),
  ("tasks", .array [.object [("id", .ofNat 1), ("result", .string "STARTUP")]])]

def announcedReordered : Json := .object [
  ("tasks", .array [.object [("result", .string "STARTUP"), ("id", .ofNat 1)]]),
  ("seq", .ofNat 2)]

/-- One task with a custom rank, decided at some time. -/
def ranked (decidedAt : Instant) (rank : Nat) : Assignment where
  seq := ⟨2⟩
  valid := true
  decidedAt := decidedAt
  nodes := []
  tasks := [{
    id := ⟨1⟩
    chainId := ⟨"chain"⟩
    firstId := ⟨1⟩
    userName := ⟨"alice"⟩
    customRank := some (.ofNat rank)
    nodes := 1
    processResult := .startup }]

theorem hashedText_faithful_ranked :
    announcedReordered.HasDistinctKeys ∧
      announced.canonical = announcedReordered.canonical ∧
      (ranked ⟨0⟩ 1).HasFiniteRanks ∧ (ranked ⟨5⟩ 1).HasFiniteRanks ∧
      (ranked ⟨0⟩ 1).timelessJson.canonical =
        (ranked ⟨5⟩ 1).timelessJson.canonical ∧
      (ranked ⟨5⟩ 2).HasFiniteRanks ∧
      (ranked ⟨0⟩ 1).timelessJson.canonical ≠
        (ranked ⟨5⟩ 2).timelessJson.canonical := by
  have hdistinct : announcedReordered.HasDistinctKeys := by
    simp [announcedReordered, Json.ofNat, Json.HasDistinctKeys,
      Json.HaveDistinctKeys, Json.MembersHaveDistinctKeys]
  have htasks :
      (Json.array
          [.object [("id", .ofNat 1), ("result", .string "STARTUP")]]).Alike
        (.array [.object [("result", .string "STARTUP"), ("id", .ofNat 1)]]) :=
    (Json.alike_array _ _).mpr
      (.cons (Json.alike_object_of_perm (.swap _ _ [])) .nil)
  have halike : announced.Alike announcedReordered :=
    (Json.alike_object _ _).mpr ⟨_, .swap _ _ [],
      .cons ⟨rfl, Json.alike_refl _⟩ (.cons ⟨rfl, htasks⟩ .nil)⟩
  have hranks (decidedAt : Instant) {rank : Nat} (hfinite : (Binary64.ofNat
        rank).isFinite) :
      (ranked decidedAt rank).HasFiniteRanks := by
    simpa [ranked, HasFiniteRanks, Task.HasFiniteRank] using hfinite
  have hone : (Binary64.ofNat 1).isFinite := by decide +kernel
  have htwo : (Binary64.ofNat 2).isFinite := by decide +kernel
  have hlike : (ranked ⟨0⟩ 1).DecidesLike (ranked ⟨5⟩ 1) :=
    ⟨.cons ⟨rfl, rfl⟩ .nil, rfl⟩
  have hunlike : ¬ (ranked ⟨0⟩ 1).DecidesLike (ranked ⟨5⟩ 2) := by
    intro hlike
    have hrank := (List.forall₂_cons.mp hlike.tasks).1.customRank
    revert hrank
    decide +kernel
  exact ⟨hdistinct, (hashedText_faithful.1 _ _ hdistinct).mpr halike,
    hranks ⟨0⟩ hone, hranks ⟨5⟩ hone,
    (hashedText_faithful.2 _ _ (hranks ⟨0⟩ hone) (hranks ⟨5⟩ hone)).mpr hlike,
    hranks ⟨5⟩ htwo,
    fun htext =>
      hunlike
        ((hashedText_faithful.2 _ _ (hranks ⟨0⟩ hone) (hranks ⟨5⟩ htwo)).mp
          htext)⟩

end Assignment

end ClusterTick
