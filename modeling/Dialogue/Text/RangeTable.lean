/-!
# Sets of code points

A set of code points is the increasing row of its boundaries: the code points at which membership
changes, the first one being the least member.

## Main definitions

- `RangeTable`, `RangeTable.contains`
-/

namespace Dialogue

/-- A set of code points, given by the code points at which membership changes. -/
structure RangeTable where
  bounds : Array Nat
  deriving DecidableEq, Repr, Inhabited

namespace RangeTable

/-- Among the boundaries from `low` up to `high`, the place of the first one above `n`, found by
halving; `low` itself when the halvings run out. -/
def firstAbove (bounds : Array Nat) (n : Nat) : Nat → Nat → Nat → Nat
  | 0, low, _ => low
  | halvings + 1, low, high =>
    if low < high then
      let middle := (low + high) / 2
      if bounds.getD middle 0 ≤ n then firstAbove bounds n halvings (middle + 1) high
      else firstAbove bounds n halvings low middle
    else low

/-- A code point is a member when an odd number of boundaries are at most the code point. -/
def contains (t : RangeTable) (c : Char) : Bool :=
  firstAbove t.bounds c.toNat (t.bounds.size.log2 + 2) 0 t.bounds.size % 2 == 1

end RangeTable

end Dialogue
