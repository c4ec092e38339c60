import ClusterTick.Json.Basic
import Mathlib.Data.List.Basic

/-!
# Texts of numbers

Numbers are written with digits, signs, points and exponent marks only, and with
at least one of these.  Different integers have different texts.
-/

namespace ClusterTick

/-- The characters that numbers are written with. -/
def isNumeric (c : Char) : Bool :=
  isDecimalDigit c || c == '-' || c == '+' || c == '.' || c == 'e'

theorem isNumeric_of_isDecimalDigit {c : Char} (hdigit : isDecimalDigit c) :
    isNumeric c := by
  simp [isNumeric, hdigit]

theorem isDecimalDigit_of_mem {value : Nat} {c : Char}
    (hmem : c ∈ decimalDigits value) : isDecimalDigit c := by
  have hdigit := Nat.isDigit_of_mem_toDigits (by decide) (by decide) hmem
  simpa [isDecimalDigit, Char.isDigit, Char.le_def] using hdigit

theorem decimalDigits_ne_nil (value : Nat) : decimalDigits value ≠ [] :=
  Nat.toDigits_ne_nil

theorem decimalDigits_injective : Function.Injective decimalDigits := by
  intro left right hdigits
  rw [← Nat.ofDigitChars_ten_toDigits (n := left),
    ← Nat.ofDigitChars_ten_toDigits (n := right)]
  exact congrArg (Nat.ofDigitChars 10 · 0) hdigits

theorem integerText_injective : Function.Injective integerText := by
  -- A minus sign is no digit, so both integers have the same sign.
  have hsign (value : Nat) : '-' ∉ decimalDigits value := fun hmem =>
    absurd (isDecimalDigit_of_mem hmem) (by decide)
  intro left right htext
  unfold integerText at htext
  split at htext <;> split at htext
  · have := decimalDigits_injective (List.cons.inj htext).2
    omega
  · exact absurd (htext ▸ List.mem_cons_self) (hsign right.natAbs)
  · exact absurd (htext ▸ List.mem_cons_self) (hsign left.natAbs)
  · have := decimalDigits_injective htext
    omega

private theorem integerText_ne_nil (value : Int) : integerText value ≠ [] := by
  unfold integerText
  split
  · exact List.cons_ne_nil _ _
  · exact decimalDigits_ne_nil _

private theorem isNumeric_integerText (value : Int) :
    ∀ c ∈ integerText value, isNumeric c := by
  have hdigits : ∀ c ∈ decimalDigits value.natAbs, isNumeric c := fun c hmem =>
    isNumeric_of_isDecimalDigit (isDecimalDigit_of_mem hmem)
  unfold integerText
  split
  · exact List.forall_mem_cons.mpr ⟨rfl, hdigits⟩
  · exact hdigits

namespace Binary64

/-- Digits that are all decimal, as every decimal of a double has them. -/
def Digits.AreDecimal (value : Digits) : Prop :=
  ∀ c ∈ value.digits, isDecimalDigit c

theorem Digits.areDecimal_trimmed {value : Digits}
    (hdecimal : value.AreDecimal) : value.trimmed.AreDecimal := by
  intro c hmem
  unfold Digits.trimmed at hmem
  dsimp only at hmem
  split at hmem
  · rw [List.mem_singleton.mp hmem]
    rfl
  · rw [List.mem_reverse] at hmem
    exact hdecimal c (List.mem_reverse.mp ((List.dropWhile_sublist _).mem hmem))

private theorem areDecimal_of_nearestOnGrid? {x : Binary64} {point : Int}
    {count : Nat} {value : Digits}
    (hfound : x.nearestOnGrid? point count = some value) :
    value.AreDecimal := by
  have hdigits : ∃ steps, value.digits = decimalDigits steps := by
    grind [nearestOnGrid?]
  obtain ⟨steps, hdigits⟩ := hdigits
  intro c hmem
  exact isDecimalDigit_of_mem (hdigits ▸ hmem)

private theorem areDecimal_shortest (x : Binary64) : x.shortest.AreDecimal := by
  refine Digits.areDecimal_trimmed ?_
  dsimp only
  generalize hfound : List.findSome? _ (List.range 17) = found
  cases found with
  | some value =>
    obtain ⟨_, _, hvalue⟩ := List.exists_of_findSome?_eq_some hfound
    exact areDecimal_of_nearestOnGrid? hvalue
  | none => exact fun _ => isDecimalDigit_of_mem

theorem Digits.text_ne_nil (value : Digits) : value.text ≠ [] := by
  unfold Digits.text
  dsimp only
  split_ifs <;> simp

theorem Digits.isNumeric_text {value : Digits} (hdecimal : value.AreDecimal) :
    ∀ c ∈ value.text, isNumeric c := by
  have hdigits : ∀ c ∈ value.digits, isNumeric c := fun c hmem =>
    isNumeric_of_isDecimalDigit (hdecimal c hmem)
  have htake (count : Nat) : ∀ c ∈ value.digits.take count, isNumeric c :=
    fun c hmem => hdigits c (List.mem_of_mem_take hmem)
  have hdrop (count : Nat) : ∀ c ∈ value.digits.drop count, isNumeric c :=
    fun c hmem => hdigits c (List.mem_of_mem_drop hmem)
  have hzeros (count : Nat) : ∀ c ∈ List.replicate count '0', isNumeric c :=
    fun c hmem => List.eq_of_mem_replicate hmem ▸ rfl
  have hpower (power : Nat) : ∀ c ∈ decimalDigits power, isNumeric c :=
    fun c hmem => isNumeric_of_isDecimalDigit (isDecimalDigit_of_mem hmem)
  have hmarks : ∀ c ∈ ['0', '.', 'e', '+', '-'], isNumeric c :=
    List.all_eq_true.mp rfl
  unfold Digits.text
  dsimp only
  split_ifs <;> simp only [List.forall_mem_append, List.forall_mem_cons] <;>
    grind

theorem text_ne_nil (x : Binary64) : x.text ≠ [] := by
  unfold text
  dsimp only
  split_ifs <;> simp [Digits.text_ne_nil]

theorem isNumeric_text (x : Binary64) : ∀ c ∈ x.text, isNumeric c := by
  have hshortest := Digits.isNumeric_text x.areDecimal_shortest
  unfold text
  dsimp only
  split_ifs
  · exact List.all_eq_true.mp rfl
  · exact List.all_eq_true.mp rfl
  · exact List.forall_mem_cons.mpr ⟨rfl, hshortest⟩
  · exact hshortest

end Binary64

namespace JsonNumber

theorem text_ne_nil (value : JsonNumber) : value.text ≠ [] := by
  cases value with
  | integer value => exact integerText_ne_nil value
  | double value => exact value.text_ne_nil

theorem isNumeric_text (value : JsonNumber) :
    ∀ c ∈ value.text, isNumeric c := by
  cases value with
  | integer value => exact isNumeric_integerText value
  | double value => exact value.isNumeric_text

end JsonNumber

end ClusterTick
