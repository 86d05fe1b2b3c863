import LinkedRaces.Number.Decimal

/-!
How filters and orders compare texts. Two texts that look numeric compare as numbers, in filters and
in orders alike; an order also keeps the empty text, numbers and all else apart.
-/

namespace LinkedRaces

open Number (parseNumeric?)

/-- The comparison of filters. -/
def compareValues (a b : String) : Ordering :=
  match parseNumeric? a, parseNumeric? b with
  | some x, some y => x.compareValue y
  | _, _ => Text.order a b

/-- Where a text stands in an order: empty text first, then numbers, then all else. -/
inductive SortRank
  | empty
  | number (x : Number.Binary)
  | other
deriving DecidableEq, Repr

namespace SortRank

def of (s : String) : SortRank :=
  if s.isEmpty then empty
  else
    match parseNumeric? s with
    | some x => number x
    | none => other

def index : SortRank → Nat
  | empty => 0
  | number _ => 1
  | other => 2

end SortRank

/-- The comparison of orders. -/
def sortOrder (a b : String) : Ordering :=
  match SortRank.of a, SortRank.of b with
  | .number x, .number y => x.compareTotal y
  | ra, rb => if ra.index ≠ rb.index then compare ra.index rb.index else Text.order a b

end LinkedRaces
