/-! # Blank characters

The blanks are Unicode's white space together with the four ASCII information separators.
-/

namespace IssueBridge.Text

/-- The blank characters, as inclusive ranges in ascending order. -/
def blankRanges : List (Nat × Nat) := [
  (0x9, 0xD), (0x1C, 0x20), (0x85, 0x85), (0xA0, 0xA0), (0x1680, 0x1680), (0x2000, 0x200A),
  (0x2028, 0x2029), (0x202F, 0x202F), (0x205F, 0x205F), (0x3000, 0x3000)]

def isBlank (c : Char) : Bool :=
  blankRanges.any fun r => r.1 ≤ c.toNat && c.toNat ≤ r.2

/-- The blanks of ASCII that separate words on a line or lines: tab to carriage return and space. -/
def isAsciiBlank (c : Char) : Bool :=
  c == ' ' || (0x9 ≤ c.toNat && c.toNat ≤ 0xD)

/-- A list without the elements at both ends that satisfy `p`. -/
def trimBy (p : Char → Bool) (cs : List Char) : List Char :=
  ((cs.dropWhile p).reverse.dropWhile p).reverse

def trim (cs : List Char) : List Char := trimBy isBlank cs

end IssueBridge.Text
