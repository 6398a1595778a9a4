/-
Blank characters of Unicode text, and trimming.

* `isWhiteSpace`: the characters with the property White_Space;
* `isBlank`: those and the four information separators;
* `trim`: text without the blanks at either end.
-/
namespace CausalTrace

/-- Whether a code point lies in one of some ranges, ends included. -/
def inRanges (ranges : List (Nat × Nat)) (c : Char) : Bool :=
  ranges.any fun r => r.1 ≤ c.toNat ∧ c.toNat ≤ r.2

/-- The ranges of the property White_Space. -/
def whiteSpaceRanges : List (Nat × Nat) :=
  [(0x09, 0x0D), (0x20, 0x20), (0x85, 0x85), (0xA0, 0xA0), (0x1680, 0x1680),
   (0x2000, 0x200A), (0x2028, 0x2029), (0x202F, 0x202F), (0x205F, 0x205F),
   (0x3000, 0x3000)]

/-- The property White_Space. -/
def isWhiteSpace (c : Char) : Bool :=
  inRanges whiteSpaceRanges c

/-- White space, or one of the information separators U+001C to
U+001F. -/
def isBlank (c : Char) : Bool :=
  isWhiteSpace c || inRanges [(0x1C, 0x1F)] c

/-- Text without the characters of a class at either end. -/
def trimBoth (drops : Char → Bool) (text : List Char) : List Char :=
  ((text.dropWhile drops).reverse.dropWhile drops).reverse

/-- Text without the blanks at either end. -/
def trim (text : List Char) : List Char :=
  trimBoth isBlank text

end CausalTrace
