import ClusterTick.Json.Canonical
import ClusterTick.Json.Reader

/-!
# Canonical strings

A canonical string is a JSON string: the reader gives back the characters it was
written from and stops at its closing quote.  So a string and whatever follows
it are determined by the text they make together.
-/

namespace ClusterTick.Json

private theorem readHex4_append {input rest : List Char} {code : Nat}
    (hread : readHex4 input = some (code, [])) :
    readHex4 (input ++ rest) = some (code, rest) := by
  unfold readHex4 at hread
  split at hread
  · simp only [Option.bind_eq_bind, Option.bind_eq_some_iff] at hread
    obtain ⟨a, ha, b, hb, c, hc, d, hd, hcode⟩ := hread
    simp only [Option.some.injEq, Prod.mk.injEq] at hcode
    obtain ⟨rfl, rfl⟩ := hcode
    simp [readHex4, ha, hb, hc, hd]
  · cases hread

/-- The escaped controls are read back from their four digits. -/
theorem readHex4_hexCode {code : Nat} (hcode : code < 160) (rest : List Char) :
    readHex4 (hexCode code ++ rest) = some (code, rest) := by
  have hall : ∀ code < 160, readHex4 (hexCode code) = some (code, []) := by
    decide +kernel
  exact readHex4_append (hall code hcode)

private theorem readUnicodeEscape_hexCode {c : Char} (hcode : c.toNat < 160)
    (rest : List Char) :
    readUnicodeEscape (hexCode c.toNat ++ rest) = some (c, rest) := by
  have hplain : c.toNat < 0xD800 ∨ 0xE000 ≤ c.toNat := by omega
  simp [readUnicodeEscape, readHex4_hexCode hcode, hplain]

section Characters

variable (fuel : Nat) (rest : List Char)

theorem readStringBody_short {escape c : Char}
    (hescape : shortEscape? escape = some c) :
    readStringBody (fuel + 1) ('\\' :: escape :: rest) =
      (readStringBody fuel rest).map fun read => (c :: read.1, read.2) := by
  have hunicode : escape ≠ 'u' := by
    rintro rfl
    cases hescape
  rw [readStringBody]
  · rw [hescape]
    cases readStringBody fuel rest <;> rfl
  · simpa using hunicode

theorem readStringBody_unicode {c : Char} (hcode : c.toNat < 160) :
    readStringBody (fuel + 1) ('\\' :: 'u' :: (hexCode c.toNat ++ rest)) =
      (readStringBody fuel rest).map fun read => (c :: read.1, read.2) := by
  rw [readStringBody, readUnicodeEscape_hexCode hcode, Option.bind_eq_bind,
    Option.bind_some]
  dsimp only
  cases readStringBody fuel rest <;> rfl

theorem readStringBody_plain {c : Char} (hquote : c ≠ '"') (hslash : c ≠ '\\')
    (hprinted : 32 ≤ c.toNat) :
    readStringBody (fuel + 1) (c :: rest) =
      (readStringBody fuel rest).map fun read => (c :: read.1, read.2) := by
  have hcontrol : ¬ c.toNat < 32 := by omega
  rw [readStringBody]
  · rw [if_neg hcontrol]
    cases readStringBody fuel rest <;> rfl
  all_goals simp [hquote, hslash]

/-- What is written for one character is read as this character. -/
theorem readStringBody_canonicalChar (c : Char) :
    readStringBody (fuel + 1) (canonicalChar c ++ rest) =
      (readStringBody fuel rest).map fun read => (c :: read.1, read.2) := by
  unfold canonicalChar
  split
  · exact readStringBody_short fuel rest rfl
  · exact readStringBody_short fuel rest rfl
  · exact readStringBody_short fuel rest rfl
  · exact readStringBody_short fuel rest rfl
  · exact readStringBody_short fuel rest rfl
  · next hquote hslash _ _ _ =>
    split
    · next hcontrol => exact readStringBody_unicode fuel rest (by omega)
    · next hcontrol =>
        exact readStringBody_plain fuel rest hquote hslash (by omega)

end Characters

/-- If every character is written as one that is read as it, a whole text is. -/
theorem readStringBody_flatMap {write : Char → List Char}
    (hwrite : ∀ fuel rest c,
      readStringBody (fuel + 1) (write c ++ rest) =
        (readStringBody fuel rest).map fun read => (c :: read.1, read.2))
    {text : List Char} {fuel : Nat} (hfuel : text.length < fuel)
    (rest : List Char) :
    readStringBody fuel (text.flatMap write ++ '"' :: rest) =
      some (text, rest) := by
  induction text generalizing fuel with
  | nil =>
    obtain ⟨fuel, rfl⟩ := Nat.exists_eq_add_of_lt hfuel
    simp [readStringBody]
  | cons c text ih =>
    obtain ⟨fuel, rfl⟩ := Nat.exists_eq_add_of_lt hfuel
    rw [List.flatMap_cons, List.append_assoc, hwrite, ih (by grind)]
    rfl

/-- The reader gives back the string that a canonical string was written from,
and the text after it. -/
theorem readString_canonicalString {text : String} {fuel : Nat}
    (hfuel : text.length < fuel) (rest : List Char) :
    readString fuel (canonicalString text ++ rest).tail =
      some (text, rest) := by
  have hlength : text.toList.length < fuel := hfuel
  simp [canonicalString, readString,
    readStringBody_flatMap readStringBody_canonicalChar hlength]

/-- Neither a string nor the text after it can be taken for another. -/
theorem canonicalString_append_inj {left right : String}
    {rest rest' : List Char}
    (htext : canonicalString left ++ rest = canonicalString right ++ rest') :
    left = right ∧ rest = rest' := by
  let fuel := left.length + right.length + 1
  have hleft :
      readString fuel (canonicalString left ++ rest).tail = some (left, rest) :=
    readString_canonicalString (by omega) rest
  have hright : readString fuel (canonicalString right ++ rest').tail =
      some (right, rest') :=
    readString_canonicalString (by omega) rest'
  rw [htext, hright] at hleft
  simpa [eq_comm] using hleft

end ClusterTick.Json
