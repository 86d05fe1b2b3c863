/-!
Tables of code points: membership in sorted ranges, and mappings given as runs of equal shift.
-/

namespace LinkedRaces.Text

/-- The ranges are sorted, so the search ends at the first that starts above `n`. -/
def inRanges : List (Nat × Nat) → Nat → Bool
  | [], _ => false
  | (first, last) :: rest, n => if n < first then false else n ≤ last || inRanges rest n

/-- Every `step`-th code point from `first` to `last` is moved as `first` is moved to `target`. -/
structure Shift where
  first : Nat
  last : Nat
  step : Nat
  target : Nat

namespace Shift

def covers (s : Shift) (n : Nat) : Bool :=
  s.first ≤ n && n ≤ s.last && (n - s.first) % s.step == 0

def apply (s : Shift) (n : Nat) : Nat := n - s.first + s.target

end Shift

def shift (table : List Shift) (n : Nat) : Nat :=
  match table.find? (·.covers n) with
  | some s => s.apply n
  | none => n

end LinkedRaces.Text
