/-! # Tables of characters

A `CharTable` is a set of characters, given as closed ranges of code points in increasing order. -/

namespace CompilerLink.Text

/-- A set of characters. -/
structure CharTable where
  /-- First and last code point of each range. -/
  ranges : Array (Nat × Nat)

/-- Whether a character is in a table. -/
def CharTable.contains (table : CharTable) (c : Char) : Bool :=
  table.ranges.any fun (first, last) => first ≤ c.toNat && c.toNat ≤ last

end CompilerLink.Text
