/-!
# Tables of code point ranges

A property of characters is kept as a sorted array of inclusive ranges of code
points. `Ranges.has` finds the only range that could hold a code point by
halving the array.
-/

namespace Lalr.Unicode

/-- Inclusive ranges of code points, in increasing order and without overlap. -/
abbrev Ranges := Array (Nat × Nat)

namespace Ranges

/-- Looks for `code` among the ranges at positions `low` up to, not including, `high`.
Each step halves the interval, so `steps` need not exceed its binary logarithm. -/
def search (ranges : Ranges) (code : Nat) : Nat → Nat → Nat → Bool
  | 0, _, _ => false
  | steps + 1, low, high =>
    if low < high then
      let middle := (low + high) / 2
      match ranges[middle]? with
      | none => false
      | some (first, last) =>
        if code < first then search ranges code steps low middle
        else if last < code then search ranges code steps (middle + 1) high
        else true
    else false

/-- Whether a range of the table holds `code`. -/
def has (ranges : Ranges) (code : Nat) : Bool :=
  ranges.search code (ranges.size.log2 + 2) 0 ranges.size

end Ranges

end Lalr.Unicode
