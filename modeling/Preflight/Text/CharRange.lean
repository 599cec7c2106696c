/-!
# Ranges of characters

Properties of characters that are laid down by a table are kept as lists of code point ranges,
both ends included.

## Main definitions

* `CharRanges`: a table of ranges.
* `CharRanges.contains`: a character lies in one of them.
-/

namespace Preflight.Text

/-- A table of code point ranges, both ends included. -/
abbrev CharRanges := List (Nat × Nat)

/-- A character lies in one of the ranges. -/
def CharRanges.contains (table : CharRanges) (c : Char) : Bool :=
  table.any fun (first, last) => first ≤ c.toNat && c.toNat ≤ last

end Preflight.Text
