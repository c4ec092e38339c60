import ClusterTick.Json.Reader
import ClusterTick.Proofs.Numeric.NumberText
import Mathlib.Data.List.TakeWhile

/-!
# Reading numbers

What the reader takes for a number does not depend on the text after it, if that
text cannot go on with a number.  So it is enough to know how a number alone is
read, and integers of sixty-four bits are read as themselves.
-/

namespace ClusterTick

/-- A number that is read back from its own text. -/
def JsonNumber.IsReadBack (value : JsonNumber) : Prop :=
  Json.readNumber value.text = some (value, [])

namespace Json

/-- What may stand after a value: nothing, a blank, a comma or a closing
bracket. -/
def Ends (rest : List Char) : Prop :=
  ∀ c ∈ rest.head?, c ∈ [' ', '\n', '\t', '\r', ',', ']', '\x7d']

namespace Ends

variable {c : Char} {rest : List Char} (hends : Ends (c :: rest))

include hends

theorem isNumeric_eq_false : isNumeric c = false := by
  have hall : ∀ c ∈ [' ', '\n', '\t', '\r', ',', ']', '\x7d'], !isNumeric c :=
    List.all_eq_true.mp rfl
  simpa using hall c (hends c rfl)

theorem isDecimalDigit_eq_false : isDecimalDigit c = false := by
  have hnumeric := hends.isNumeric_eq_false
  simp only [isNumeric, Bool.or_eq_false_iff] at hnumeric
  exact hnumeric.1.1.1.1

private theorem ne_point : c ≠ '.' := by
  rintro rfl
  cases hends.isNumeric_eq_false

private theorem not_exponentMark : ¬ (c = 'e' ∨ c = 'E') := by
  rintro (rfl | rfl)
  · cases hends.isNumeric_eq_false
  · exact absurd (hends 'E' rfl) (by decide)

end Ends

/-- A sign, if there is one: whether it is a minus, and the text after it. -/
def splitSign (input : List Char) : Bool × List Char :=
  match input with
  | '+' :: rest => (false, rest)
  | '-' :: rest => (true, rest)
  | rest => (false, rest)

private theorem readPower_mark {c : Char} (hmark : c = 'e' ∨ c = 'E')
    (input : List Char) :
    readPower (c :: input) = (readDigitRun (splitSign input).2).map fun run =>
      (some (if (splitSign input).1 then -(valueOfDigits run.1 : Int)
        else valueOfDigits run.1), run.2) := by
  simp only [readPower, if_pos hmark]
  rfl

private theorem splitSign_append {input : List Char} (hsome : input ≠ [])
    (rest : List Char) :
    splitSign (input ++ rest) =
      ((splitSign input).1, (splitSign input).2 ++ rest) := by
  obtain ⟨c, input, rfl⟩ := List.exists_cons_of_ne_nil hsome
  by_cases hplus : c = '+'
  · subst hplus
    rfl
  · by_cases hminus : c = '-'
    · subst hminus
      rfl
    · rw [List.cons_append, splitSign, splitSign] <;> simp [hplus, hminus]

/-- A minus sign, if there is one: whether it is there, and the text after
it. -/
def splitMinus (input : List Char) : Bool × List Char :=
  match input with
  | '-' :: rest => (true, rest)
  | input => (false, input)

private theorem splitMinus_append {input : List Char} (hsome : input ≠ [])
    (rest : List Char) :
    splitMinus (input ++ rest) =
      ((splitMinus input).1, (splitMinus input).2 ++ rest) := by
  obtain ⟨c, input, rfl⟩ := List.exists_cons_of_ne_nil hsome
  by_cases hminus : c = '-'
  · subst hminus
    rfl
  · rw [List.cons_append, splitMinus, splitMinus] <;> simp [hminus]

theorem readLiteral_eq (input : List Char) :
    readLiteral input =
      (readWhole (splitMinus input).2).bind fun whole =>
        (readFraction whole.2).bind fun fraction =>
          (readPower fraction.2).bind fun power =>
            some
              ((⟨(splitMinus input).1, whole.1, fraction.1, power.1.getD 0⟩,
                  fraction.1.isEmpty && power.1.isNone), power.2) :=
  rfl

section Append

variable {input left rest digits : List Char} (hends : Ends rest)

include hends

private theorem takeWhile_digits_eq_nil :
    rest.takeWhile isDecimalDigit = [] := by
  cases rest with
  | nil => rfl
  | cons c rest => rw [List.takeWhile_cons, hends.isDecimalDigit_eq_false]; rfl

private theorem dropWhile_digits_eq_self :
    rest.dropWhile isDecimalDigit = rest := by
  cases rest with
  | nil => rfl
  | cons c rest => rw [List.dropWhile_cons, hends.isDecimalDigit_eq_false]; rfl

theorem readDigitRun_append (hread : readDigitRun input = some (digits, left)) :
    readDigitRun (input ++ rest) = some (digits, left ++ rest) := by
  have htake : (input ++ rest).takeWhile isDecimalDigit =
      input.takeWhile isDecimalDigit := by
    rw [List.takeWhile_append, takeWhile_digits_eq_nil hends, List.append_nil]
    split
    · next hall => exact ((List.takeWhile_prefix _).eq_of_length hall).symm
    · rfl
  have hdrop : (input ++ rest).dropWhile isDecimalDigit =
      input.dropWhile isDecimalDigit ++ rest := by
    rw [List.dropWhile_append, dropWhile_digits_eq_self hends]
    split
    · next hnone => rw [List.isEmpty_iff.mp hnone, List.nil_append]
    · rfl
  simp only [readDigitRun, htake, hdrop] at hread ⊢
  split at hread
  · cases hread
  · next hdigits =>
    simp only [Option.some.injEq, Prod.mk.injEq] at hread
    rw [if_neg hdigits, hread.1, hread.2]

private theorem readWhole_append
    (hread : readWhole input = some (digits, left)) :
    readWhole (input ++ rest) = some (digits, left ++ rest) := by
  cases input with
  | nil => cases hread
  | cons c input =>
    by_cases hzero : c = '0'
    · subst hzero
      simp only [readWhole, Option.some.injEq, Prod.mk.injEq] at hread
      rw [List.cons_append, readWhole, hread.1, hread.2]
    · rw [readWhole] at hread
      · rw [List.cons_append, readWhole]
        · exact readDigitRun_append hends hread
        · simpa using hzero
      · simpa using hzero

private theorem readFraction_append
    (hread : readFraction input = some (digits, left)) :
    readFraction (input ++ rest) = some (digits, left ++ rest) := by
  cases input with
  | nil =>
    simp only [readFraction, Option.some.injEq, Prod.mk.injEq] at hread
    obtain ⟨rfl, rfl⟩ := hread
    cases rest with
    | nil => rfl
    | cons c rest =>
      show readFraction (c :: rest) = some ([], c :: rest)
      rw [readFraction]
      simpa using hends.ne_point
  | cons c input =>
    by_cases hpoint : c = '.'
    · subst hpoint
      exact readDigitRun_append hends hread
    · rw [readFraction] at hread
      · simp only [Option.some.injEq, Prod.mk.injEq] at hread
        obtain ⟨rfl, rfl⟩ := hread
        rw [List.cons_append, readFraction]
        simpa using hpoint
      · simpa using hpoint

private theorem readPower_append {power : Option Int}
    (hread : readPower input = some (power, left)) :
    readPower (input ++ rest) = some (power, left ++ rest) := by
  cases input with
  | nil =>
    simp only [readPower, Option.some.injEq, Prod.mk.injEq] at hread
    obtain ⟨rfl, rfl⟩ := hread
    cases rest with
    | nil => rfl
    | cons c rest =>
      simp only [List.nil_append, readPower, if_neg hends.not_exponentMark]
  | cons c input =>
    by_cases hmark : c = 'e' ∨ c = 'E'
    · rw [readPower_mark hmark] at hread
      rw [List.cons_append, readPower_mark hmark]
      obtain ⟨⟨digits, left⟩, hdigits, hpower⟩ :=
        Option.map_eq_some_iff.mp hread
      cases hpower
      have hsome : input ≠ [] := by
        rintro rfl
        cases hdigits
      rw [splitSign_append hsome rest, readDigitRun_append hends hdigits]
      rfl
    · simp only [List.cons_append, readPower, if_neg hmark, Option.some.injEq,
        Prod.mk.injEq] at hread ⊢
      exact ⟨hread.1, by rw [← hread.2]; rfl⟩

private theorem readLiteral_append {literal : DecimalLiteral × Bool}
    (hread : readLiteral input = some (literal, left)) :
    readLiteral (input ++ rest) = some (literal, left ++ rest) := by
  have hsome : input ≠ [] := by
    rintro rfl
    cases hread
  rw [readLiteral_eq] at hread ⊢
  simp only [Option.bind_eq_some_iff] at hread
  obtain ⟨⟨whole, _⟩, hwhole, ⟨fraction, _⟩, hfraction, ⟨power, _⟩, hpower,
      hresult⟩ :=
    hread
  cases hresult
  rw [splitMinus_append hsome rest, readWhole_append hends hwhole,
    Option.bind_some, readFraction_append hends hfraction, Option.bind_some,
    readPower_append hends hpower]
  rfl

/-- What is read of a number is read of it in front of any text that ends it. -/
theorem readNumber_append {value : JsonNumber}
    (hread : readNumber input = some (value, left)) :
    readNumber (input ++ rest) = some (value, left ++ rest) := by
  simp only [readNumber, Option.bind_eq_bind,
    Option.bind_eq_some_iff] at hread ⊢
  obtain ⟨⟨⟨literal, isWhole⟩, left⟩, hliteral, value, hvalue, hresult⟩ := hread
  cases hresult
  exact ⟨_, readLiteral_append hends hliteral, value, hvalue, rfl⟩

end Append

section Integers

private theorem valueOfDigits_decimalDigits (value : Nat) :
    valueOfDigits (decimalDigits value) = value := by
  have hfold (digits : List Char) :
      valueOfDigits digits = Nat.ofDigitChars 10 digits 0 := by
    simp only [valueOfDigits, Nat.ofDigitChars, digitValue, Nat.mul_comm]
  rw [hfold, decimalDigits, Nat.ofDigitChars_ten_toDigits]

/-- Only zero is written with a zero in front. -/
theorem head?_decimalDigits_ne {value : Nat} (hpositive : 0 < value) :
    (decimalDigits value).head? ≠ some '0' := by
  induction value using Nat.strongRecOn with
  | _ value ih =>
    rcases Nat.lt_or_ge value 10 with hdigit | hmore
    · have hall :
          ∀ value < 10, 0 < value → (decimalDigits value).head? ≠ some '0' := by
        decide
      exact hall value hdigit hpositive
    · have hfirst := ih (value / 10) (by omega) (by omega)
      rw [decimalDigits, Nat.toDigits_of_base_le (by decide) hmore,
        List.head?_append_of_ne_nil _ Nat.toDigits_ne_nil]
      exact hfirst

private theorem readWhole_decimalDigits (value : Nat) :
    readWhole (decimalDigits value) = some (decimalDigits value, []) := by
  rcases Nat.eq_zero_or_pos value with rfl | hpositive
  · rfl
  · have hall : ∀ c ∈ decimalDigits value, isDecimalDigit c :=
      fun _ => isDecimalDigit_of_mem
    have hrun : readDigitRun (decimalDigits value) =
        some (decimalDigits value, []) := by
      simp only [readDigitRun, List.takeWhile_eq_self_iff.mpr hall,
        List.dropWhile_eq_nil_iff.mpr hall, List.isEmpty_iff,
        decimalDigits_ne_nil, if_false]
    rw [readWhole, hrun]
    intro rest hzero
    exact head?_decimalDigits_ne hpositive (by rw [hzero]; rfl)

private theorem readLiteral_integerText (value : Int) :
    readLiteral (integerText value) =
      some ((⟨decide (value < 0), decimalDigits value.natAbs, [], 0⟩, true),
        []) := by
  have hsplit : splitMinus (integerText value) =
      (decide (value < 0), decimalDigits value.natAbs) := by
    unfold integerText
    split
    · next hnegative => rw [decide_eq_true hnegative]; rfl
    · next hnatural =>
      rw [decide_eq_false hnatural, splitMinus]
      intro rest hminus
      have hmem : '-' ∈ decimalDigits value.natAbs :=
        hminus ▸ List.mem_cons_self
      exact absurd (isDecimalDigit_of_mem hmem) (by decide)
  rw [readLiteral_eq, hsplit, readWhole_decimalDigits]
  rfl

/-- Integers of the signed and of the unsigned range are read back. -/
theorem isReadBack_integer {value : Int} (hlow : Int64.minValue.toInt ≤ value)
    (hhigh : value < UInt64.size) : (JsonNumber.integer value).IsReadBack := by
  have hnumber :
      numberOf ⟨decide (value < 0), decimalDigits value.natAbs, [], 0⟩ true =
        some (.integer value) := by
    simp only [numberOf, valueOfDigits_decimalDigits, true_and,
      Bool.not_eq_true', decide_eq_false_iff_not, decide_eq_true_eq]
    rcases Int.lt_or_le value 0 with hnegative | hnatural
    · rw [if_neg (by omega), if_pos (by omega)]
      congr 2
      omega
    · rw [if_pos (by omega)]
      congr 2
      omega
  rw [JsonNumber.IsReadBack, JsonNumber.text, readNumber,
    readLiteral_integerText, Option.bind_eq_bind, Option.bind_some]
  dsimp only
  rw [hnumber]
  rfl

end Integers

end Json

end ClusterTick
