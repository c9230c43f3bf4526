/-!
# Obligations — white space

The characters with the Unicode property White_Space, and text without them at its
ends.
-/

namespace Obligations

/-- The ranges of the Unicode property White_Space. -/
def blankRanges : List (Nat × Nat) :=
  [(0x09, 0x0d), (0x20, 0x20), (0x85, 0x85), (0xa0, 0xa0), (0x1680, 0x1680), (0x2000, 0x200a),
   (0x2028, 0x2029), (0x202f, 0x202f), (0x205f, 0x205f), (0x3000, 0x3000)]

/-- The character is white space. -/
def isBlank (c : Char) : Bool := blankRanges.any fun r => r.1 ≤ c.toNat && c.toNat ≤ r.2

def skipBlanks (cs : List Char) : List Char := cs.dropWhile isBlank

/-- The text without white space at its ends. -/
def trimBlanks (cs : List Char) : List Char := (skipBlanks (skipBlanks cs).reverse).reverse

end Obligations
