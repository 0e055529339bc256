import TermSnap.Text.Point
/-!
# Blank characters

The characters that may surround a numeral: the ASCII blanks, the next line character and the
Unicode space, line and paragraph separators, but not U+001C to U+001F.
-/

namespace TermSnap.Text

/-- Closed ranges of blank code points, ascending and apart. -/
def blankRanges : List (Nat × Nat) :=
  [(0x09, 0x0D), (0x20, 0x20), (0x85, 0x85), (0xA0, 0xA0), (0x1680, 0x1680),
   (0x2000, 0x200A), (0x2028, 0x2029), (0x202F, 0x202F), (0x205F, 0x205F), (0x3000, 0x3000)]

/-- Whether a code point is blank: it may surround a numeral. -/
def isBlank (p : Point) : Bool :=
  blankRanges.any fun r => r.1 ≤ p.code && p.code ≤ r.2

def trimBlank (cs : Text) : Text :=
  ((cs.dropWhile isBlank).reverse.dropWhile isBlank).reverse

example : (blankRanges.map fun r => r.2 + 1 - r.1).sum = 25 := by decide

theorem isBlank_of_isWhitespace (c : Char) (h : c.isWhitespace = true) :
    isBlank (.char c) = true := by
  simp [Char.isWhitespace] at h
  rcases h with ((h | h) | h) | h <;> subst h <;> decide

end TermSnap.Text
