/-!
# Splitting text at a mark

A text is split at the first or at the last occurrence of a character, which
belongs to neither half.
-/

namespace ClusterTick.Text

/-- The text before and after the first occurrence of a character. -/
def splitAtFirst? (mark : Char) : List Char → Option (List Char × List Char)
  | [] => none
  | c :: rest =>
    if c = mark then some ([], rest)
    else
      (splitAtFirst? mark rest).map fun (before, after) => (c :: before, after)

/-- The text before and after the last occurrence of a character. -/
def splitAtLast? (mark : Char) : List Char → Option (List Char × List Char)
  | [] => none
  | c :: rest =>
    match splitAtLast? mark rest with
    | some (before, after) => some (c :: before, after)
    | none => if c = mark then some ([], rest) else none

/-- Both halves around the mark give the text back. -/
theorem eq_of_splitAtFirst? {mark : Char} {text before after : List Char}
    (h : splitAtFirst? mark text = some (before, after)) :
    text = before ++ mark :: after := by
  induction text generalizing before with
  | nil => simp [splitAtFirst?] at h
  | cons c rest ih =>
    simp only [splitAtFirst?] at h
    split at h
    · simp_all
    · simp only [Option.map_eq_some_iff, Prod.mk.injEq] at h
      obtain ⟨⟨found, other⟩, hfound, rfl, rfl⟩ := h
      simp [ih hfound]

/-- Where the mark is not in the first half, the split finds it behind that
half. -/
theorem splitAtFirst?_append {mark : Char} {before : List Char}
    (hfree : mark ∉ before) (after : List Char) :
    splitAtFirst? mark (before ++ mark :: after) = some (before, after) := by
  induction before with
  | nil => simp [splitAtFirst?]
  | cons c rest ih =>
    rw [List.mem_cons, not_or] at hfree
    rw [List.cons_append, splitAtFirst?, if_neg (Ne.symm hfree.1), ih hfree.2]
    rfl

theorem eq_of_splitAtLast? {mark : Char} {text before after : List Char}
    (h : splitAtLast? mark text = some (before, after)) :
    text = before ++ mark :: after := by
  induction text generalizing before after with
  | nil => simp [splitAtLast?] at h
  | cons c rest ih =>
    simp only [splitAtLast?] at h
    split at h
    · next found other hfound =>
      simp only [Option.some.injEq, Prod.mk.injEq] at h
      obtain ⟨rfl, rfl⟩ := h
      simp [ih hfound]
    · split at h <;> simp_all

theorem splitAtLast?_eq_none {mark : Char} {text : List Char}
    (hfree : mark ∉ text) : splitAtLast? mark text = none := by
  induction text with
  | nil => rfl
  | cons c rest ih =>
    rw [List.mem_cons, not_or] at hfree
    rw [splitAtLast?, ih hfree.2, if_neg (Ne.symm hfree.1)]

/-- Where the mark is not in the second half, the split finds it before that
half. -/
theorem splitAtLast?_append {mark : Char} (before : List Char)
    {after : List Char} (hfree : mark ∉ after) :
    splitAtLast? mark (before ++ mark :: after) = some (before, after) := by
  induction before with
  | nil =>
    rw [List.nil_append, splitAtLast?, splitAtLast?_eq_none hfree, if_pos rfl]
  | cons c rest ih => rw [List.cons_append, splitAtLast?, ih]

end ClusterTick.Text
