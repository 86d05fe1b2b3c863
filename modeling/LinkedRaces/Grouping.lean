/-! Grouping by a key: the keys in the order in which they first occur, each with its elements. -/

namespace LinkedRaces

variable {α κ : Type} [DecidableEq κ]

/-- Every element in the group of its key; elements of one group keep their order. -/
def groupBy (key : α → κ) (xs : List α) : List (κ × List α) :=
  (xs.map key).eraseDups.map fun k => (k, xs.filter (key · == k))

end LinkedRaces
