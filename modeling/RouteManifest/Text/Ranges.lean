/-!
Sets of characters given as ranges of code points. The tables of character properties in this folder
are such sets.
-/

namespace RouteManifest.Text

/-- A set of code points as its ranges, first and last point of each, in ascending order. -/
abbrev Ranges := List (Nat × Nat)

namespace Ranges

def contains (ranges : Ranges) (c : Char) : Bool :=
  ranges.any fun range => range.1 ≤ c.toNat && c.toNat ≤ range.2

end Ranges

end RouteManifest.Text
