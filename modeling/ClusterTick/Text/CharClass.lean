/-!
# Character classes

The blanks and control characters that labels refuse.  Blanks are the
characters with the Unicode property `White_Space`, controls those of category
`Cc`.
-/

namespace ClusterTick.Text

/-- Characters with the Unicode property `White_Space`. -/
def isBlank (c : Char) : Bool :=
  let code := c.toNat
  (9 ≤ code ∧ code ≤ 13) || code == 32 || code == 0x85 || code == 0xA0 ||
    code == 0x1680 || (0x2000 ≤ code ∧ code ≤ 0x200A) || code == 0x2028 ||
    code == 0x2029 || code == 0x202F || code == 0x205F || code == 0x3000

/-- Control characters, category `Cc`. -/
def isControl (c : Char) : Bool :=
  let code := c.toNat
  code ≤ 0x1F || (0x7F ≤ code ∧ code ≤ 0x9F)

/-- Text without blanks at its start. -/
def dropBlanks (text : List Char) : List Char := text.dropWhile isBlank

end ClusterTick.Text
