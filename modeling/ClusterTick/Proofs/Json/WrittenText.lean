import ClusterTick.Proofs.Json.Alike
import ClusterTick.Proofs.Json.StringText
import ClusterTick.Proofs.Numeric.NumberReading

/-!
# Written texts are read back

The compact and the indented form of a value are read as this value, if the
shape by which they are read names every member and their numbers are read back.
Both forms are arrays and objects of texts between commas with blanks around
them, and what is read of such a text follows from what is read of its parts,
whatever stands after it.
-/

namespace ClusterTick.Json

/-- Whether a value can be read by a shape at a depth that is still allowed: its
numbers are read back, and its members are among those that are read. -/
def Fits : (depth : Nat) → Shape → Json → Prop
  | 0, _, array _ => False
  | 0, _, object _ => False
  | depth + 1, shape, array items =>
    ∀ index item, items[index]? = some item → Fits depth (shape.item index) item
  | depth + 1, shape, object members =>
    ∀ entry ∈ members,
      ∃ inner, shape.member? entry.1 = some inner ∧ Fits depth inner entry.2
  | _, _, number value => value.IsReadBack
  | _, _, _ => True

/-- A text that is read as a value, whatever stands after it. -/
def ReadsAs (depth : Nat) (shape : Shape) (text : List Char) (value : Json) :
    Prop :=
  ∀ fuel rest, text.length < fuel → Ends rest →
    readValue fuel depth shape (text ++ rest) = some (value, rest)

theorem skipBlanks_of_token {c : Char} (htoken : isTokenBlank c = false)
    (rest : List Char) : skipBlanks (c :: rest) = c :: rest :=
  List.dropWhile_cons_of_neg (by simp [htoken])

section Tokens

variable (fuel depth : Nat) (shape : Shape)

theorem readValue_of_skipBlanks_eq {left right : List Char}
    (hsame : skipBlanks left = skipBlanks right) :
    readValue fuel depth shape left = readValue fuel depth shape right := by
  rw [readValue, readValue, hsame]

theorem readValue_quote (rest : List Char) :
    readValue fuel depth shape ('"' :: rest) =
      (readString fuel rest).map fun read => (string read.1, read.2) := by
  cases depth <;> rfl

theorem readValue_bracket (rest : List Char) :
    readValue fuel (depth + 1) shape ('[' :: rest) =
      (readList fuel (fun index => readValue fuel depth (shape.item index)) ']'
        rest).map fun read => (array read.1, read.2) :=
  rfl

theorem readValue_brace (rest : List Char) :
    readValue fuel (depth + 1) shape ('\x7b' :: rest) =
      (readList fuel
        (fun _ =>
          readMember fuel fun key =>
            (shape.member? key).map (readValue fuel depth))
        '\x7d' rest).map fun read => (object (read.1.filterMap id), read.2) :=
  rfl

/-- No value starts where an array or object ends. -/
theorem readValue_eq_none {input : List Char} {close : Char}
    (hclose : close = ']' ∨ close = '\x7d')
    (hend : ∀ c ∈ (skipBlanks input).head?, c = close) :
    readValue fuel depth shape input = none := by
  cases hinput : skipBlanks input with
  | nil =>
    rw [readValue_of_skipBlanks_eq fuel depth shape
      (show _ = skipBlanks [] from hinput)]
    cases depth <;> rfl
  | cons c rest =>
    obtain rfl : c = close := hend c (by simp [hinput])
    have htoken : isTokenBlank c = false := by
      rcases hclose with rfl | rfl <;> rfl
    rw [readValue_of_skipBlanks_eq fuel depth shape
      (hinput.trans (skipBlanks_of_token htoken rest).symm)]
    rcases hclose with rfl | rfl <;> cases depth <;> rfl

end Tokens

section Blanks

variable {gap : List Char} (hgap : ∀ c ∈ gap, isTokenBlank c)

include hgap

theorem skipBlanks_append (input : List Char) :
    skipBlanks (gap ++ input) = skipBlanks input :=
  List.dropWhile_append_of_pos hgap

/-- Blanks in front of a value do not matter. -/
theorem ReadsAs.after_blanks {depth : Nat} {shape : Shape} {text : List Char}
    {value : Json} (hread : ReadsAs depth shape text value) :
    ReadsAs depth shape (gap ++ text) value := by
  intro fuel rest hfuel hends
  rw [List.length_append] at hfuel
  rw [← hread fuel rest (by omega) hends, List.append_assoc]
  exact readValue_of_skipBlanks_eq fuel depth shape (skipBlanks_append hgap _)

private theorem ends_blanks {close : Char}
    (hclose : close = ']' ∨ close = '\x7d') (rest : List Char) :
    Ends (gap ++ close :: rest) := by
  cases gap with
  | nil => rcases hclose with rfl | rfl <;> simp [Ends]
  | cons c gap =>
    have hblank := hgap c List.mem_cons_self
    simp only [isTokenBlank, Bool.or_eq_true, beq_iff_eq] at hblank
    rcases hblank with ((rfl | rfl) | rfl) | rfl <;> simp [Ends]

end Blanks

section Lists

variable {α β : Type} {item : Nat → List Char → Option (α × List Char)}
  {close : Char} {gap : List Char} {write : β → List Char} {mean : β → α}
  {items : List β}

theorem length_le_joinItems {text : List Char} {texts : List (List Char)}
    (hmem : text ∈ texts) : text.length ≤ (joinItems texts).length := by
  induction texts with
  | nil => cases hmem
  | cons first rest ih =>
    cases rest with
    | nil => rw [List.mem_singleton.mp hmem]; rfl
    | cons next rest =>
      simp only [joinItems, List.length_append, List.length_cons]
      rcases List.mem_cons.mp hmem with rfl | hlater
      · omega
      · have := ih hlater
        omega

theorem length_le_of_joinItems (texts : List (List Char)) :
    texts.length ≤ (joinItems texts).length + 1 := by
  induction texts with
  | nil => simp
  | cons first rest ih =>
    cases rest with
    | nil => simp
    | cons next rest =>
      simp only [joinItems, List.length_append, List.length_cons] at ih ⊢
      omega

private theorem readSeparated_eq_none {fuel index : Nat} {input : List Char}
    (hnone : item index input = none) :
    readSeparated item close fuel index input = none := by
  cases fuel with
  | zero => rfl
  | succ fuel => simp [readSeparated, hnone]

variable (hclose : close = ']' ∨ close = '\x7d')
  (hgap : ∀ c ∈ gap, isTokenBlank c)

include hclose hgap

/-- Items between commas are read one by one up to the closing bracket. -/
theorem readSeparated_joinItems {index fuel : Nat} (hsome : items ≠ [])
    (hfuel : items.length ≤ fuel)
    (hitems : ∀ place value, items[place]? = some value → ∀ rest, Ends rest →
      item (index + place) (write value ++ rest) = some (mean value, rest))
    (rest : List Char) :
    readSeparated item close fuel index
        (joinItems (items.map write) ++ (gap ++ close :: rest)) =
      some (items.map mean, rest) := by
  induction items generalizing index fuel with
  | nil => exact absurd rfl hsome
  | cons first later ih =>
    obtain ⟨fuel, rfl⟩ : ∃ less, fuel = less + 1 :=
      Nat.exists_eq_succ_of_ne_zero (by rw [List.length_cons] at hfuel; omega)
    have hfirst := hitems 0 first rfl
    rw [Nat.add_zero] at hfirst
    cases later with
    | nil =>
      have htoken : isTokenBlank close = false := by
        rcases hclose with rfl | rfl <;> rfl
      simp only [List.map_cons, List.map_nil, joinItems, readSeparated,
        Option.bind_eq_bind, hfirst _ (ends_blanks hgap hclose rest),
        Option.bind_some, skipBlanks_append hgap, skipBlanks_of_token htoken,
        if_pos]
    | cons second later =>
      have hcomma : close ≠ ',' := by rcases hclose with rfl | rfl <;> decide
      have hshift : ∀ place value, (second :: later)[place]? = some value →
          ∀ rest, Ends rest →
          item (index + 1 + place) (write value ++ rest) =
            some (mean value, rest) := by
        intro place value hvalue
        rw [Nat.add_assoc, Nat.add_comm 1 place]
        exact hitems (place + 1) value hvalue
      have hlater := ih (by simp) (by simpa using hfuel) hshift
      have hends (after : List Char) : Ends (',' :: after) := by simp [Ends]
      simp only [List.map_cons, joinItems, List.append_assoc, List.cons_append,
        readSeparated, Option.bind_eq_bind, hfirst _ (hends _),
        Option.bind_some,
        skipBlanks_of_token (show isTokenBlank ',' = false from rfl),
        if_neg hcomma.symm, if_pos]
      rw [List.map_cons] at hlater
      rw [hlater, Option.bind_some]
      rfl

/-- A list is read up to its closing bracket.  No item can be read where the
bracket stands, so what can be read of the first item is not the end of an empty
list. -/
theorem readList_joinItems {fuel : Nat} (hfuel : items.length ≤ fuel)
    (hopen : ∀ input, (∀ c ∈ (skipBlanks input).head?, c = close) →
      item 0 input = none)
    (hitems : ∀ place value, items[place]? = some value → ∀ rest, Ends rest →
      item place (write value ++ rest) = some (mean value, rest))
    (rest : List Char) :
    readList fuel item close
        (joinItems (items.map write) ++ (gap ++ close :: rest)) =
      some (items.map mean, rest) := by
  have htoken : isTokenBlank close = false := by
    rcases hclose with rfl | rfl <;> rfl
  cases items with
  | nil =>
    simp only [List.map_nil, joinItems, List.nil_append, readList,
      skipBlanks_append hgap, skipBlanks_of_token htoken, if_pos]
  | cons first later =>
    have hread : readSeparated item close fuel 0
        (joinItems ((first :: later).map write) ++ (gap ++ close :: rest)) =
          some ((first :: later).map mean, rest) :=
      readSeparated_joinItems hclose hgap (List.cons_ne_nil first later) hfuel
        (by simpa using hitems) rest
    generalize joinItems ((first :: later).map write) ++
      (gap ++ close :: rest) = input at hread ⊢
    have hitem : ¬ ∀ c ∈ (skipBlanks input).head?, c = close := by
      intro hend
      rw [readSeparated_eq_none (hopen input hend)] at hread
      cases hread
    unfold readList
    cases hinput : skipBlanks input with
    | nil => simp [hinput] at hitem
    | cons c after =>
      have hother : c ≠ close := by simpa [hinput] using hitem
      simp only [if_neg hother, hread]

end Lists

section Values

variable {fuel depth : Nat} {shape : Shape}

private theorem readMember_eq_none {α : Type}
    {value? : String → Option (List Char → Option (α × List Char))}
    {input : List Char} (hend : ∀ c ∈ (skipBlanks input).head?, c = '\x7d') :
    readMember fuel value? input = none := by
  unfold readMember
  cases hinput : skipBlanks input with
  | nil => rfl
  | cons c rest =>
    obtain rfl : c = '\x7d' := hend c (by simp [hinput])
    rfl

theorem readStringBody_escapedChar (fuel : Nat) (rest : List Char) (c : Char) :
    readStringBody (fuel + 1) (escapedChar c ++ rest) =
      (readStringBody fuel rest).map fun read => (c :: read.1, read.2) := by
  unfold escapedChar
  split
  case h_8 hquote hslash _ _ _ _ _ =>
    split
    · next hcontrol => exact readStringBody_unicode fuel rest (by omega)
    · next hcontrol =>
        exact readStringBody_plain fuel rest hquote hslash (by omega)
  all_goals exact readStringBody_short fuel rest rfl

private theorem length_escapedChar_pos (c : Char) :
    0 < (escapedChar c).length := by
  unfold escapedChar
  split
  case h_8 =>
    split
    · exact Nat.succ_pos _
    · exact Nat.succ_pos _
  all_goals exact Nat.succ_pos _

private theorem length_lt_quoted (text : String) :
    text.toList.length < (quoted text).length := by
  have hescaped (chars : List Char) :
      chars.length ≤ (chars.flatMap escapedChar).length := by
    induction chars with
    | nil => exact Nat.le_refl _
    | cons c chars ih =>
      have hsome := length_escapedChar_pos c
      rw [List.flatMap_cons, List.length_append, List.length_cons]
      omega
  have hchars := hescaped text.toList
  simp only [quoted, List.length_append, List.length_cons]
  omega

/-- What is read of a quoted text after its opening quote. -/
theorem readString_quoted {text : String} (hfuel : (quoted text).length ≤ fuel)
    (rest : List Char) :
    readString fuel (text.toList.flatMap escapedChar ++ '"' :: rest) =
      some (text, rest) := by
  have hlength : text.toList.length < fuel :=
    Nat.lt_of_lt_of_le (length_lt_quoted text) hfuel
  rw [readString, readStringBody_flatMap readStringBody_escapedChar hlength]
  simp

/-- A literal is read at any depth, and the reader recurs on the depth. -/
theorem readsAs_null : ReadsAs depth shape (scalarText null) null := by
  intro fuel rest _ _
  cases depth <;> rfl

theorem readsAs_bool (value : Bool) :
    ReadsAs depth shape (scalarText (bool value)) (bool value) := by
  intro fuel rest _ _
  cases value <;> cases depth <;> rfl

theorem readsAs_string (text : String) :
    ReadsAs depth shape (scalarText (string text)) (string text) := by
  intro fuel rest hfuel _
  have hread := readString_quoted (Nat.le_of_lt hfuel) rest
  simp only [scalarText, quoted, List.cons_append, List.append_assoc,
    List.nil_append, readValue_quote, hread, Option.map_some]

/-- A number is read by itself, as no other value starts with one of its
characters. -/
theorem readsAs_number {value : JsonNumber} (hback : value.IsReadBack) :
    ReadsAs depth shape (scalarText (number value)) (number value) := by
  intro fuel rest _ hends
  obtain ⟨c, text, htext⟩ := List.exists_cons_of_ne_nil value.text_ne_nil
  have hnumeric : isNumeric c :=
    value.isNumeric_text c (htext ▸ List.mem_cons_self)
  have hother :
      ∀ other ∈ [' ', '\n', '\t', '\r', '"', '[', '\x7b', 'n', 't', 'f'],
        c ≠ other := by
    have hmarks :
        ∀ other ∈ [' ', '\n', '\t', '\r', '"', '[', '\x7b', 'n', 't', 'f'],
          !isNumeric other :=
      List.all_eq_true.mp rfl
    rintro other hmem rfl
    simpa [hnumeric] using hmarks c hmem
  simp only [List.forall_mem_cons] at hother
  have htoken : isTokenBlank c = false := by simp [isTokenBlank, hother]
  have hread : readNumber (c :: (text ++ rest)) = some (value, rest) := by
    rw [← List.cons_append, ← htext]
    exact readNumber_append hends hback
  simp only [scalarText, htext, List.cons_append, readValue,
    skipBlanks_of_token htoken]
  split
  case h_7 => rw [hread, Option.map_some]
  all_goals simp_all

variable {gap : List Char} (hgap : ∀ c ∈ gap, isTokenBlank c)

include hgap

/-- An array is read by its items. -/
theorem readsAs_array {items : List Json} {write : Json → List Char}
    (hitems : ∀ index item, items[index]? = some item →
      ReadsAs depth (shape.item index) (write item) item) :
    ReadsAs (depth + 1) shape
      ('[' :: joinItems (items.map write) ++ gap ++ [']']) (array items) := by
  intro fuel rest hfuel _
  simp only [List.length_cons, List.length_append] at hfuel
  have hcount := length_le_of_joinItems (items.map write)
  rw [List.length_map] at hcount
  have hread :
      readList fuel (fun index => readValue fuel depth (shape.item index)) ']'
          (joinItems (items.map write) ++ (gap ++ ']' :: rest)) =
        some (items.map id, rest) := by
    refine readList_joinItems (.inl rfl) hgap (by omega)
      (fun input hend => readValue_eq_none fuel depth _ (.inl rfl) hend) ?_ rest
    intro index item hitem rest hends
    have hlength := length_le_joinItems (List.mem_map_of_mem (f := write)
      (List.mem_of_getElem? hitem))
    exact hitems index item hitem fuel rest (by omega) hends
  simp only [List.cons_append, List.append_assoc, List.nil_append,
    readValue_bracket, hread, List.map_id, Option.map_some]

/-- A member is read by its key. -/
theorem readMember_quoted {α : Type}
    {value? : String → Option (List Char → Option (α × List Char))}
    {key : String} {reader : List Char → Option (α × List Char)}
    {text rest : List Char} {value : α} (hreader : value? key = some reader)
    (hread : reader (text ++ rest) = some (value, rest))
    (hfuel : (quoted key).length ≤ fuel) :
    readMember fuel value? (gap ++ (quoted key ++ ':' :: text) ++ rest) =
      some (some (key, value), rest) := by
  simp only [readMember, List.append_assoc, skipBlanks_append hgap, quoted,
    List.cons_append, List.nil_append,
    skipBlanks_of_token (show isTokenBlank '"' = false from rfl),
    readString_quoted hfuel, Option.bind_eq_bind, Option.bind_some,
    skipBlanks_of_token (show isTokenBlank ':' = false from rfl), hreader,
    hread, Option.map_some]

/-- An object is read by its members. -/
theorem readsAs_object {members : List (String × Json)} {lead : List Char}
    {write : String × Json → List Char} (hlead : ∀ c ∈ lead, isTokenBlank c)
    (hmembers : ∀ entry ∈ members, ∃ inner, shape.member? entry.1 = some inner ∧
      ReadsAs depth inner (write entry) entry.2) :
    ReadsAs (depth + 1) shape ('\x7b' :: joinItems (members.map fun entry =>
        lead ++ (quoted entry.1 ++ ':' :: write entry)) ++ gap ++ ['\x7d'])
      (object members) := by
  intro fuel rest hfuel _
  simp only [List.length_cons, List.length_append] at hfuel
  have hcount := length_le_of_joinItems (members.map fun entry =>
    lead ++ (quoted entry.1 ++ ':' :: write entry))
  rw [List.length_map] at hcount
  have hread :
      readList fuel
          (fun _ =>
            readMember fuel fun key =>
              (shape.member? key).map (readValue fuel depth))
          '\x7d'
          (joinItems (members.map fun entry =>
              lead ++ (quoted entry.1 ++ ':' :: write entry)) ++
            (gap ++ '\x7d' :: rest)) =
        some (members.map some, rest) := by
    refine readList_joinItems (.inr rfl) hgap (by omega)
      (fun input hend => readMember_eq_none hend) ?_ rest
    intro index entry hentry rest hends
    have hmem := List.mem_of_getElem? hentry
    have hlength :=
      length_le_joinItems (List.mem_map_of_mem
        (f := fun entry : String × Json =>
          lead ++ (quoted entry.1 ++ ':' :: write entry))
        hmem)
    simp only [List.length_append, List.length_cons] at hlength
    obtain ⟨inner, hinner, hvalue⟩ := hmembers entry hmem
    exact readMember_quoted hlead (by rw [hinner, Option.map_some])
      (hvalue fuel rest (by omega) hends) (by omega)
  simp only [List.cons_append, List.append_assoc, List.nil_append,
    readValue_brace, hread, Option.map_some, List.filterMap_map]
  simp

end Values

section Forms

private theorem compactItems_eq_joinItems (items : List Json) :
    compactItems items = joinItems (items.map compactChars) := by
  induction items with
  | nil => rfl
  | cons item rest ih => cases rest <;> simp [compactItems, joinItems, ih]

private theorem compactMembers_eq_joinItems (members : List (String × Json)) :
    compactMembers members =
      joinItems (members.map fun entry =>
        quoted entry.1 ++ ':' :: compactChars entry.2) := by
  induction members with
  | nil => rfl
  | cons entry rest ih => cases rest <;> simp [compactMembers, joinItems, ih]

private theorem prettyItems_eq_joinItems (level : Nat) (items : List Json) :
    prettyItems level items = joinItems (items.map fun item =>
      newLine level ++ prettyChars level item) := by
  induction items with
  | nil => rfl
  | cons item rest ih => cases rest <;> simp [prettyItems, joinItems, ih]

private theorem prettyMembers_eq_joinItems (level : Nat)
    (members : List (String × Json)) :
    prettyMembers level members =
      joinItems (members.map fun entry =>
        newLine level ++
          (quoted entry.1 ++ ':' :: ' ' :: prettyChars level entry.2)) := by
  induction members with
  | nil => rfl
  | cons entry rest ih => cases rest <;> simp [prettyMembers, joinItems, ih]

private theorem isTokenBlank_newLine (level : Nat) :
    ∀ c ∈ newLine level, isTokenBlank c := by
  rintro c (_ | ⟨_, hblank⟩)
  · rfl
  · rw [List.eq_of_mem_replicate hblank]
    rfl

/-- The compact form of a value that fits is read as the value. -/
theorem readsAs_compactChars (value : Json) :
    ∀ depth shape, Fits depth shape value →
      ReadsAs depth shape (compactChars value) value := by
  induction value using inductionOn with
  | null => exact fun _ _ _ => readsAs_null
  | bool value => exact fun _ _ _ => readsAs_bool value
  | number value =>
    exact fun depth _ hfits => readsAs_number (by cases depth <;> exact hfits)
  | string text => exact fun _ _ _ => readsAs_string text
  | array items ih =>
    rintro (_ | depth) shape hfits
    · cases hfits
    · have hread :=
        readsAs_array (List.forall_mem_nil _) fun index item hitem =>
          ih item (List.mem_of_getElem? hitem) depth _ (hfits index item hitem)
      rwa [List.append_nil, ← compactItems_eq_joinItems] at hread
  | object members ih =>
    rintro (_ | depth) shape hfits
    · cases hfits
    · have hread :=
        readsAs_object (List.forall_mem_nil _)
          (List.forall_mem_nil _) fun entry hentry =>
            (hfits entry hentry).imp fun inner hinner =>
              ⟨hinner.1, ih entry hentry depth inner hinner.2⟩
      simp only [List.nil_append, List.append_nil] at hread
      rwa [← compactMembers_eq_joinItems] at hread

/-- The indented form of a value that fits is read as the value. -/
theorem readsAs_prettyChars (value : Json) :
    ∀ level depth shape, Fits depth shape value →
      ReadsAs depth shape (prettyChars level value) value := by
  induction value using inductionOn with
  | null => exact fun _ _ _ _ => readsAs_null
  | bool value => exact fun _ _ _ _ => readsAs_bool value
  | number value =>
    exact fun _ depth _ hfits => readsAs_number (by cases depth <;> exact hfits)
  | string text => exact fun _ _ _ _ => readsAs_string text
  | array items ih =>
    rintro level (_ | depth) shape hfits
    · cases hfits
    · cases items with
      | nil => exact readsAs_compactChars (array []) _ _ hfits
      | cons first later =>
        have hread :=
          readsAs_array (isTokenBlank_newLine level) fun index item hitem =>
            (ih item (List.mem_of_getElem? hitem) (level + 1) depth _
                (hfits index item hitem)).after_blanks
              (isTokenBlank_newLine (level + 1))
        rwa [← prettyItems_eq_joinItems] at hread
  | object members ih =>
    rintro level (_ | depth) shape hfits
    · cases hfits
    · cases members with
      | nil => exact readsAs_compactChars (object []) _ _ hfits
      | cons first later =>
        have hspace : ∀ c ∈ [' '], isTokenBlank c := List.all_eq_true.mp rfl
        have hread :=
          readsAs_object (isTokenBlank_newLine level)
            (isTokenBlank_newLine (level + 1)) fun entry hentry =>
              (hfits entry hentry).imp fun inner hinner =>
                ⟨hinner.1,
                  (ih entry hentry (level + 1) depth inner
                      hinner.2).after_blanks hspace⟩
        simp only [List.cons_append, List.nil_append] at hread
        rwa [← List.cons_append, ← prettyMembers_eq_joinItems] at hread

theorem parseShape?_ofList_of_readsAs {shape : Shape} {text : List Char}
    {value : Json} (hread : ReadsAs maximumDepth shape text value) :
    parseShape? shape (String.ofList text) = some value := by
  have hall := hread (text.length + 1) [] (by omega) (by simp [Ends])
  rw [List.append_nil] at hall
  simp only [parseShape?, String.toList_ofList, hall, Option.bind_eq_bind,
    Option.bind_some, skipBlanks, List.dropWhile_nil, List.isEmpty_nil, if_true]

/-- Both written forms of a value that fits are read as this value. -/
theorem parseShape?_compact {shape : Shape} {value : Json}
    (hfits : Fits maximumDepth shape value) :
    parseShape? shape value.compact = some value :=
  parseShape?_ofList_of_readsAs (readsAs_compactChars value _ _ hfits)

theorem parseShape?_pretty {shape : Shape} {value : Json}
    (hfits : Fits maximumDepth shape value) :
    parseShape? shape value.pretty = some value :=
  parseShape?_ofList_of_readsAs (readsAs_prettyChars value 0 _ _ hfits)

end Forms

end ClusterTick.Json
