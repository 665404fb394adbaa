/-!
# Membership in a table of code point ranges

A property of code points is stored as an array of closed ranges in ascending order
(`Text.IdentifierTable`). `inRanges` looks a code point up by halving the part of the array that
can still hold it.
-/

namespace UnitResolution.Text

/-- Search the ranges with index from `low` up to, but not including, `high` for one that holds
`point`. Every step halves the distance, so `steps` of the order of its logarithm suffice. -/
def searchRanges (table : Array (Nat × Nat)) (point : Nat) : (steps low high : Nat) → Bool
  | 0, _, _ => false
  | steps + 1, low, high =>
      if low < high then
        let middle := (low + high) / 2
        match table[middle]? with
        | none => false
        | some (first, last) =>
            if point < first then searchRanges table point steps low middle
            else if last < point then searchRanges table point steps (middle + 1) high
            else true
      else false

/-- Whether some range of an ascending table holds the code point. -/
def inRanges (table : Array (Nat × Nat)) (point : Nat) : Bool :=
  searchRanges table point (table.size.log2 + 2) 0 table.size

end UnitResolution.Text
