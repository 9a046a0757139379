/-
Sets of code points given by ranges.

* `Ranges`: a list of closed intervals of numbers.
* `Ranges.contains`: membership, by looking through the list.
-/
import AccessLog.Text.Basic

namespace AccessLog

/-- A set of numbers as a list of closed intervals. -/
abbrev Ranges := List (Nat × Nat)

/-- A number is in the set if one of the intervals holds it. -/
def Ranges.contains (ranges : Ranges) (n : Nat) : Bool :=
  ranges.any fun (first, last) => first ≤ n && n ≤ last

end AccessLog
