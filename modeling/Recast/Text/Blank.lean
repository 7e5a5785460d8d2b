/-!
# Blanks

The characters of the Unicode property `White_Space`, and the trimming that leaves none of them at the
ends of a text.
-/

namespace Recast.Text

/-- The ranges of code points with the property `White_Space`, ends included. -/
def blankRanges : List (Nat × Nat) :=
  [(0x09, 0x0D), (0x20, 0x20), (0x85, 0x85), (0xA0, 0xA0), (0x1680, 0x1680), (0x2000, 0x200A),
    (0x2028, 0x2029), (0x202F, 0x202F), (0x205F, 0x205F), (0x3000, 0x3000)]

/-- The property has twenty-five characters. -/
example : (blankRanges.flatMap fun r ↦ List.range' r.1 (r.2 + 1 - r.1)).length = 25 := by decide

/-- A character of the property `White_Space`. -/
def isBlank (c : Char) : Bool := blankRanges.any fun r ↦ r.1 ≤ c.toNat && c.toNat ≤ r.2

/-- The characters with the blanks at the front left out. -/
def trimStart (cs : List Char) : List Char := cs.dropWhile isBlank

/-- The characters with the blanks at the back left out. -/
def trimEnd (cs : List Char) : List Char := (cs.reverse.dropWhile isBlank).reverse

/-- The characters without the blanks at either end. -/
def trim (cs : List Char) : List Char := trimEnd (trimStart cs)

end Recast.Text
