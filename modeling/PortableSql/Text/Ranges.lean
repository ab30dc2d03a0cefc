namespace PortableSql

/-- A set of characters as closed intervals of code points in ascending order. -/
abbrev CharRanges := Array (Nat × Nat)

namespace CharRanges

def contains (ranges : CharRanges) (c : Char) : Bool :=
  ranges.any fun (low, high) => low ≤ c.toNat && c.toNat ≤ high

end CharRanges

end PortableSql
