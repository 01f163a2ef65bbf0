/-!
# Sets of characters

A set of characters is given by the numbers at which membership changes, in increasing order:
the characters from the first to before the second are in the set, those from there to before
the third are not, and so on. A character is in the set if an odd number of changes lies at or
before it.
-/

namespace PullDiagnostics.Text

/-- A set of characters. -/
structure CharSet where
  /-- Where membership changes, in increasing order. -/
  bounds : Array Nat

namespace CharSet

/-- How many of the bounds from `low` to before `high` lie at or before a number, if all
before `low` do; the distance is halved with every step. -/
def rankBetween (bounds : Array Nat) (n : Nat) : (fuel low high : Nat) → Nat
  | 0, low, _ => low
  | fuel + 1, low, high =>
      if high ≤ low then low
      else
        let middle := (low + high) / 2
        if bounds.getD middle 0 ≤ n then rankBetween bounds n fuel (middle + 1) high
        else rankBetween bounds n fuel low middle

/-- How many bounds lie at or before a number. -/
def rank (set : CharSet) (n : Nat) : Nat :=
  rankBetween set.bounds n set.bounds.size 0 set.bounds.size

/-- Whether a character is in a set. -/
def contains (set : CharSet) (c : Char) : Bool :=
  set.rank c.toNat % 2 == 1

end CharSet

end PullDiagnostics.Text
