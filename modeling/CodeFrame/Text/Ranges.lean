/-!
# Ranges of code points

Large classes of characters are given by ranges of code points. They stand in increasing order and
apart from each other, so a code point is looked for by halving.
-/

namespace CodeFrame

/-- Ranges of code points, both ends included, in increasing order. -/
abbrev Ranges := Array (Nat × Nat)

namespace Ranges

/-- Does one of the ranges from index `lo` up to index `hi`, which is not one, hold `n`? It takes no
more steps than there are ranges. -/
def holdsBetween (rs : Ranges) (n : Nat) : (steps lo hi : Nat) → Bool
  | 0, _, _ => false
  | steps + 1, lo, hi =>
    if lo < hi then
      let mid := (lo + hi) / 2
      match rs[mid]? with
      | none => false
      | some (first, last) =>
        if n < first then holdsBetween rs n steps lo mid
        else if last < n then holdsBetween rs n steps (mid + 1) hi
        else true
    else false

/-- Does one of the ranges hold `n`? -/
def contains (rs : Ranges) (n : Nat) : Bool :=
  rs.holdsBetween n rs.size 0 rs.size

end Ranges

end CodeFrame
