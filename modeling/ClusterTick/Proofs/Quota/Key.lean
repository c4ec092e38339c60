import ClusterTick.Quota.Key
import Mathlib.Tactic.Common

/-!
# Quota keys and their texts

Neither the word of a kind nor the name of a tier holds a dash, so the first and
the last dash of a key's text stand around the group, whatever dashes the group
holds itself.  A key with a group is read back from its text, and a resource
name that is read as a key of a known tier is that key's text.
-/

namespace ClusterTick

namespace QuotaKind

theorem ofWord?_word (kind : QuotaKind) : ofWord? kind.word = some kind := by
  cases kind <;> rfl

theorem word_of_ofWord? {text : String} {kind : QuotaKind}
    (hword : ofWord? text = some kind) : kind.word = text := by
  simpa using List.find?_some hword

private theorem dash_not_mem_word (kind : QuotaKind) :
    '-' ∉ kind.word.toList := by
  cases kind <;> decide

end QuotaKind

namespace PriorityTier

theorem mem_named_iff {tier : PriorityTier} :
    tier ∈ named ↔ tier ≠ unknown := by
  cases tier <;> decide

/-- The word for unknown tiers is the name of none, so it stands for itself. -/
theorem ofName_name (tier : PriorityTier) : ofName tier.name = tier := by
  cases tier <;> rfl

theorem name_of_ofName {text : String} (hnamed : ofName text ∈ named) :
    (ofName text).name = text := by
  unfold ofName at hnamed ⊢
  cases hfound : named.find? fun tier => tier.name = text with
  | some tier => simpa using List.find?_some hfound
  | none =>
    rw [hfound] at hnamed
    exact absurd hnamed (by decide)

private theorem dash_not_mem_name (tier : PriorityTier) :
    '-' ∉ tier.name.toList := by
  cases tier <;> decide

private theorem isEmpty_name (tier : PriorityTier) :
    tier.name.toList.isEmpty = false := by
  cases tier <;> rfl

end PriorityTier

namespace QuotaKey

/-- A key that can grant quota: it has a group and a known tier. -/
structure IsUsable (key : QuotaKey) : Prop where
  group : key.slot.group.isEmpty = false
  tier : key.slot.tier ∈ PriorityTier.named

private theorem toList_text (key : QuotaKey) :
    key.text.toList =
      key.kind.word.toList ++
        '-' ::
          (key.slot.group.text.toList ++ '-' :: key.slot.tier.name.toList) := by
  simp [text]

/-- A key with a group is read back from its text, also when its tier is
unknown. -/
theorem parse_text {key : QuotaKey} (hgroup : key.slot.group.isEmpty = false) :
    parse key.text = .scheduling key := by
  have hgroup' : key.slot.group.text.toList.isEmpty = false := by
    simpa [Label.isEmpty] using hgroup
  rw [parse, toList_text, Text.splitAtFirst?_append key.kind.dash_not_mem_word]
  dsimp only
  rw [String.ofList_toList, QuotaKind.ofWord?_word]
  dsimp only
  rw [Text.splitAtLast?_append _ key.slot.tier.dash_not_mem_name]
  simp [hgroup', PriorityTier.isEmpty_name, PriorityTier.ofName_name]

/-- What is read as a key consists of the word of its kind, its group, and a
text that stands for its tier. -/
theorem eq_of_parse {resource : String} {key : QuotaKey}
    (hparse : parse resource = .scheduling key) :
    key.slot.group.isEmpty = false ∧
      ∃ tier : String, key.slot.tier = .ofName tier ∧
        resource =
          key.kind.word ++ "-" ++ key.slot.group.text ++ "-" ++ tier := by
  unfold parse at hparse
  split at hparse
  case h_1 => cases hparse
  case h_2 word rest hfirst =>
    split at hparse
    case h_1 => cases hparse
    case h_2 kind hkind =>
      split at hparse
      case h_2 => cases hparse
      case h_1 group tier hlast =>
        split at hparse
        case isTrue => cases hparse
        case isFalse hparts =>
          obtain rfl := QuotaResource.scheduling.inj hparse
          have hresource := Text.eq_of_splitAtFirst? hfirst
          rw [Text.eq_of_splitAtLast? hlast] at hresource
          refine ⟨?_, String.ofList tier, rfl, ?_⟩
          · simp_all [Label.isEmpty]
          · rw [← String.toList_inj, hresource]
            simp [QuotaKind.word_of_ofWord? hkind]

/-- Only the text of a usable key is read as that key. -/
theorem text_of_parse {resource : String} {key : QuotaKey}
    (hparse : parse resource = .scheduling key)
    (htier : key.slot.tier ∈ PriorityTier.named) : key.text = resource := by
  obtain ⟨-, tier, hname, hresource⟩ := eq_of_parse hparse
  rw [hname] at htier
  rw [text, hname, PriorityTier.name_of_ofName htier, hresource]

/-- For a usable key, being read as the key and being its text are the same. -/
theorem parse_eq_scheduling_iff {resource : String} {key : QuotaKey}
    (htier : key.slot.tier ∈ PriorityTier.named) :
    parse resource = .scheduling key ↔ key.IsUsable ∧ resource = key.text := by
  constructor
  · intro hparse
    exact ⟨⟨(eq_of_parse hparse).1, htier⟩, (text_of_parse hparse htier).symm⟩
  · rintro ⟨husable, rfl⟩
    exact parse_text husable.group

/-- Keys and texts correspond: every key with a group is read back from its
text, a text that is read as a key of a known tier is the text of that key, and
so no two texts are read as one usable key. -/
theorem parse_inverts_text :
    (∀ key : QuotaKey, key.slot.group.isEmpty = false →
        parse key.text = .scheduling key) ∧
      (∀ (resource : String) (key : QuotaKey),
        parse resource = .scheduling key → key.slot.tier ∈ PriorityTier.named →
        key.text = resource ∧ key.slot.group.isEmpty = false) ∧
      ∀ (left right : String) (key : QuotaKey), parse left = .scheduling key →
        parse right = .scheduling key → key.slot.tier ∈ PriorityTier.named →
        left = right := by
  refine ⟨fun key => parse_text, ?_, ?_⟩
  · intro resource key hparse htier
    exact ⟨text_of_parse hparse htier, (eq_of_parse hparse).1⟩
  · intro left right key hleft hright htier
    calc left = key.text := (text_of_parse hleft htier).symm
      _ = right := text_of_parse hright htier

/-- A group that looks like a whole key keeps its dashes, next to a known tier
and next to an unknown one. -/
theorem parse_inverts_text_dashedGroup :
    parse "node--AUTO-UNKNOWN" = .scheduling ⟨.node, ⟨⟨"-AUTO"⟩, .unknown⟩⟩ ∧
      parse "node_limit-node-cpu-HIGH-LOW" =
        .scheduling ⟨.nodeLimit, ⟨⟨"node-cpu-HIGH"⟩, .low⟩⟩ ∧
      (⟨.nodeLimit, ⟨⟨"node-cpu-HIGH"⟩, .low⟩⟩ : QuotaKey).text =
        "node_limit-node-cpu-HIGH-LOW" := by
  have hunknown :=
    parse_inverts_text.1 ⟨.node, ⟨⟨"-AUTO"⟩, .unknown⟩⟩ (by decide)
  have hlimit :=
    parse_inverts_text.1 ⟨.nodeLimit, ⟨⟨"node-cpu-HIGH"⟩, .low⟩⟩ (by decide)
  exact ⟨hunknown, hlimit, (parse_inverts_text.2.1 _ _ hlimit (by decide)).1⟩

end QuotaKey

end ClusterTick
