/-!
# Tables of code points

A class of characters as a list of ranges of code points, both ends included.
-/

namespace LamApp
namespace Text

/-- Ranges of code points. -/
abbrev CodeTable := List (Nat × Nat)

/-- Some range of the table holds the character. -/
def CodeTable.holds (table : CodeTable) (c : Char) : Bool :=
  table.any fun range => range.1 ≤ c.toNat && c.toNat ≤ range.2

end Text
end LamApp
