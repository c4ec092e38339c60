import ClusterTick.Text.CharWidth
import ClusterTick.Text.Emoji

/-!
# Display width

The number of terminal columns that a line of text takes.  It is the sum of the
columns of its characters, except where characters merge into one sign: emoji
that are joined, toned or told how to show, quotation marks told to be wide, and
the letter pairs of a few scripts that are always written together.

A line is measured from its end.  What has been measured matters to the
character before it only by its opening, so one step adds one character to a
context.
-/

namespace ClusterTick.Text

/-- The later part of a pair of letters that is written as one sign.  The flag
`joined` tells that a joiner stands before it. -/
inductive PairTail where
  /-- Arabic alef, after lam. -/
  | alef
  /-- Hebrew lamed, after alef and a joiner. -/
  | lamed (joined : Bool)
  /-- Buginese ya, after a vowel sign and a joiner. -/
  | ya (joined : Bool)
  /-- The same with the vowel sign, which stands on the letter a. -/
  | voweledYa
  /-- A Tifinagh consonant, after another with a joiner between them. -/
  | consonant (joined : Bool)
  /-- The same with the consonant joiner of the script. -/
  | linkedConsonant
  /-- The later of two Lisu tone letters. -/
  | toneLetter
  /-- Old Turkic i, after a joiner. -/
  | orkhonI (joined : Bool)
  /-- A Khmer letter that goes below the one before it. -/
  | coengLetter
  deriving DecidableEq, Repr

/-- What a line opens with, as far as it bears on the character before it. -/
inductive Opening where
  | plain
  | lineFeed
  /-- A character shown as a picture. -/
  | picture
  | skinTone
  | indicator
  /-- Two or more regional indicators. -/
  | indicators
  /-- A joiner before a picture. -/
  | joiner
  /-- A keycap mark before a joiner. -/
  | joinedKeycap
  /-- A regional indicator before a joiner. -/
  | joinedIndicator
  /-- An even number of regional indicators before a joiner. -/
  | joinedPairs
  /-- An odd number of them, more than one. -/
  | joinedOdd
  /-- The tags of a flag before a joiner: how many letters and digits of
  them. -/
  | joinedTags (letters digits : Nat)
  /-- The Kirat Rai vowel signs e and ai. -/
  | vowelE
  | vowelAi
  | tail (tail : PairTail)
  deriving DecidableEq, Repr

/-- Characters that tell the one before them how to show. -/
inductive Selector where
  | asPicture
  | asText
  /-- Makes a quotation mark as wide as an ideograph. -/
  | wide
  deriving DecidableEq, Repr

/-- What has been measured: its opening and the selectors before it. -/
structure Context where
  opening : Opening := .plain
  asPicture : Bool := false
  asText : Bool := false
  wide : Bool := false
  deriving DecidableEq, Repr

def joinerCode : Nat := 0x200D

def isTifinaghConsonant (c : Char) : Bool :=
  isWithin [(0x2D31, 0x2D65), (0x2D6F, 0x2D6F)] c

/-- Arabic letters of the joining group of lam. -/
def isLam (c : Char) : Bool :=
  isWithin
    [(0x644, 0x644), (0x6B5, 0x6B8), (0x76A, 0x76A), (0x8A6, 0x8A6),
      (0x8C7, 0x8C7)]
    c

/-- Arabic letters of the joining group of alef. -/
def isAlef (c : Char) : Bool :=
  isWithin
    [(0x622, 0x623), (0x625, 0x625), (0x627, 0x627), (0x671, 0x673),
      (0x675, 0x675), (0x773, 0x774), (0x870, 0x882)]
    c

/-- Khmer letters that a coeng sign puts below the letter before it. -/
def isCoengLetter (c : Char) : Bool :=
  isWithin
    [(0x1780, 0x1782), (0x1784, 0x1787), (0x1789, 0x178C), (0x178E, 0x1793),
      (0x1795, 0x1798), (0x179B, 0x179D), (0x17A0, 0x17A0), (0x17A2, 0x17A2),
      (0x17A7, 0x17A7), (0x17AB, 0x17AC), (0x17AF, 0x17AF)]
    c

/-- Marks that are ignored by default and do not part a pair of letters. -/
def isPairTransparent (c : Char) : Bool :=
  isWithin
    [(0x34F, 0x34F), (0x17B4, 0x17B5), (0x180B, 0x180D), (0x180F, 0x180F),
      (joinerCode, joinerCode), (0xFE00, 0xFE0F), (0xE0100, 0xE01EF)]
    c

/-- The quotation marks that can be wide. -/
def isQuotationMark (c : Char) : Bool :=
  isWithin [(0x2018, 0x2019), (0x201C, 0x201D)] c

def selector? (c : Char) : Option Selector :=
  match c.toNat with
  | 0xFE01 => some .wide
  | 0xFE0E => some .asText
  | 0xFE0F => some .asPicture
  | _ => none

namespace PairTail

/-- The same tail with a joiner before it. -/
def afterJoiner : PairTail → PairTail
  | lamed _ => lamed true
  | ya _ => ya true
  | consonant _ => consonant true
  | orkhonI _ => orkhonI true
  | tail => tail

/-- What a character before a tail adds when the two are one sign. -/
def merge? (tail : PairTail) (c : Char) : Option (Int × Opening) :=
  match tail with
  | alef =>
    if isLam c then some (0, .plain)
    else if isJoinedAcross c then some (0, .tail alef)
    else none
  | lamed true => if c.toNat = 0x5D0 then some (0, .plain) else none
  | ya true => if c.toNat = 0x1A17 then some (0, .tail voweledYa) else none
  | voweledYa => if c.toNat = 0x1A15 then some (0, .plain) else none
  | consonant joined =>
    if c.toNat = 0x2D7F then some (1, .tail linkedConsonant)
    else if joined && isTifinaghConsonant c then some (0, .plain)
    else none
  | linkedConsonant => if isTifinaghConsonant c then some (-1, .plain) else none
  | toneLetter =>
    if isWithin [(0xA4F8, 0xA4FB)] c then some (0, .plain) else none
  | orkhonI true => if c.toNat = 0x10C32 then some (0, .plain) else none
  | coengLetter => if c.toNat = 0x17D2 then some (-1, .plain) else none
  | _ => none

end PairTail

namespace Opening

def ofChar (c : Char) : Opening :=
  if isAlef c then tail .alef
  else if c.toNat = 0x5DC then tail (.lamed false)
  else if isCoengLetter c then tail .coengLetter
  else if c.toNat = 0x1A10 then tail (.ya false)
  else if isTifinaghConsonant c then tail (.consonant false)
  else if isWithin [(0xA4FC, 0xA4FD)] c then tail .toneLetter
  else if c.toNat = 0x10C03 then tail (.orkhonI false)
  else if c.toNat = 0x16D67 then vowelE
  else if c.toNat = 0x16D68 then vowelAi
  else if isRegionalIndicator c then indicator
  else if isSkinTone c then skinTone
  else if isPicture c then picture
  else plain

/-- Whether the opening is joined to a picture, so that a picture before it adds
nothing. -/
def isJoined : Opening → Bool
  | joiner => true
  | joinedKeycap => true
  | _ => false

/-- Whether selectors leave the opening what it is. -/
def isTail : Opening → Bool
  | tail _ => true
  | _ => false

/-- Whether the opening is a picture or the start of one, so that a joiner can
join it to a picture before it. -/
def isJoinable : Opening → Bool
  | picture => true
  | skinTone => true
  | indicators => true
  | joinedPairs => true
  | joinedOdd => true
  | _ => false

/-- The opening after a mark that does not part a pair of letters.  Arabic has
marks of its own. -/
def across? (opening : Opening) (c : Char) : Option Opening :=
  match opening with
  | tail .alef => none
  | tail pair =>
    if c.toNat = joinerCode then some (tail pair.afterJoiner)
    else if isPairTransparent c then some (tail pair)
    else none
  | _ => none

/-- The tags of a joined flag with one more before them, unless they are too
many for the name of a region. -/
def mergeTag? (letters digits : Nat) (c : Char) : Option (Int × Opening) :=
  if isTagLetter c ∧ digits = 0 ∧ letters < 6 then
    some (0, joinedTags (letters + 1) 0)
  else if isTagDigit c ∧ digits = 0 ∧ letters < 5 then some (0, joinedTags 0 1)
  else if isTagDigit c ∧ 0 < digits ∧ digits < 3 then
    some (0, joinedTags 0 (digits + 1))
  else if c.toNat = taggedFlag ∧
    (if digits = 0 then 3 ≤ letters else digits = 3) then
    some (0, picture)
  else none

/-- What a character before a joiner adds. -/
def mergeJoined? (c : Char) : Option (Int × Opening) :=
  if c.toNat = keycapMark then some (0, joinedKeycap)
  else if c.toNat = tagEnd then some (0, joinedTags 0 0)
  else if isRegionalIndicator c then some (1, joinedIndicator)
  else if isSkinTone c then some (0, skinTone)
  else if isPicture c then some (0, picture)
  else none

/-- What a character before an opening adds when the two are one sign, and what
the line opens with then. -/
def merge? (opening : Opening) (c : Char) : Option (Int × Opening) :=
  if opening.isJoinable && c.toNat = joinerCode then some (0, joiner)
  else
    match opening with
    | tail pair => pair.merge? c
    | skinTone => if takesSkinTone c then some (0, picture) else none
    | indicator => if isRegionalIndicator c then some (1, indicators) else none
    | indicators => if isRegionalIndicator c then some (1, indicators) else none
    | joiner => mergeJoined? c
    | joinedIndicator =>
      if isRegionalIndicator c then some (-1, joinedPairs) else none
    | joinedOdd =>
      if isRegionalIndicator c then some (-1, joinedPairs) else none
    | joinedPairs => if isRegionalIndicator c then some (3, joinedOdd) else none
    | joinedTags letters digits => mergeTag? letters digits c
    | vowelE =>
      match c.toNat with
      | 0x16D63 => some (0, plain)
      | 0x16D67 => some (0, vowelAi)
      | 0x16D68 => some (1, vowelE)
      | 0x16D69 => some (0, plain)
      | _ => none
    | vowelAi => if c.toNat = 0x16D63 then some (0, plain) else none
    | _ => none

/-- A character before an opening, which may be one sign with it: the columns
that it adds, and what the line opens with then. -/
def before (opening : Opening) (c : Char) : Int × Opening :=
  match opening.across? c with
  | some next => (0, next)
  | none => (opening.merge? c).getD (charWidth c, ofChar c)

end Opening

namespace Context

/-- A selector before the context.  It hides the opening unless that is a tail,
or is joined to a picture and so may be a picture itself. -/
def select (context : Context) (selector : Selector) : Context :=
  let kept : Context := if context.opening.isTail then context else {}
  match selector with
  | .asPicture =>
    { if context.opening.isJoined then context else kept with
      asPicture := true }
  | .asText => { kept with asText := true }
  | .wide => { kept with wide := true }

/-- The context once the selector for pictures has come to nothing. -/
def withoutPicture (context : Context) : Context :=
  if !context.asPicture then context
  else if context.opening.isTail then { context with asPicture := false }
  else {}

/-- A character beyond ASCII, no selector itself, before a context without a
selector for pictures.  The other selectors come to nothing before a character
that they do not suit. -/
def beforeSelected (context : Context) (c : Char) : Int × Context :=
  if context.asText && isNarrowAsText c then (1, {})
  else if context.wide && isQuotationMark c then (2, {})
  else
    let (width, opening) := context.opening.before c
    (width, { opening })

/-- A character before a context: the columns that it adds, and the context that
it makes. -/
def before (context : Context) (c : Char) : Int × Context :=
  if context.asPicture && isSelectable c then
    (if context.opening.isJoined then 0 else 2, { opening := .picture })
  else
    let context := context.withoutPicture
    if c = '\n' then (1, { opening := .lineFeed })
    else if c = '\r' && context.opening = .lineFeed then (0, {})
    else if c.toNat ≤ 0xA0 then (1, {})
    else
      match selector? c with
      | some selector => (0, context.select selector)
      | none => context.beforeSelected c

end Context

/-- The columns of a line and the context that it is to what stands before
it. -/
def measure : List Char → Int × Context
  | [] => (0, {})
  | c :: rest =>
    let (width, context) := measure rest
    let (added, context) := context.before c
    (width + added, context)

/-- The columns of a line of text. -/
def displayWidth (line : List Char) : Nat := (measure line).1.toNat

end ClusterTick.Text
