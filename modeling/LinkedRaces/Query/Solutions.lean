import LinkedRaces.Query.Basic
import LinkedRaces.Query.Values

/-! What the modifiers make of the solutions, and the rows that a projection keeps. -/

namespace LinkedRaces

def valueText (row : Binding) (var : String) : String :=
  ((row.get? var).map Term.stringValue).getD ""

/-- Two rows with the same key count as duplicates: the values, with NUL between them. -/
def distinctKey (vars : List String) (row : Binding) : String :=
  Text.join "\x00" (vars.map (valueText row))

/-- Keeps the first row of each key. `seen` holds the keys of the rows before. -/
def dropRepeated {α κ : Type} [BEq κ] (key : α → κ) (seen : List κ) : List α → List α
  | [] => []
  | x :: xs =>
    if seen.contains (key x) then dropRepeated key seen xs
    else x :: dropRepeated key (key x :: seen) xs

def applyDistinct (vars : List String) (rows : List Binding) : List Binding :=
  dropRepeated (distinctKey vars) [] rows

def OrderKey.compare (k : OrderKey) (a b : Binding) : Ordering :=
  let o := sortOrder (valueText a k.var) (valueText b k.var)
  if k.ascending then o else o.swap

def compareRows : List OrderKey → Binding → Binding → Ordering
  | [], _, _ => .eq
  | k :: ks, a, b => (k.compare a b).then (compareRows ks a b)

def applyOrder (keys : List OrderKey) (rows : List Binding) : List Binding :=
  rows.mergeSort fun a b => (compareRows keys a b).isLE

namespace Modifiers

def apply (m : Modifiers) (vars : List String) (rows : List Binding) : List Binding :=
  let rows := if m.distinct then applyDistinct vars rows else rows
  ((applyOrder m.orderBy rows).drop m.offset).take m.limit

end Modifiers

def boundVariables (rows : List Binding) : List String := (rows.flatMap Dictionary.keys).eraseDups

def Projection.variableNames (p : Projection) (rows : List Binding) : List String :=
  match p with
  | .all => boundVariables rows
  | .vars names => names

def narrow (vars : List String) (row : Binding) : Binding :=
  Dictionary.ofList (vars.filterMap fun v => (row.get? v).map (v, ·))

def project (p : Projection) (m : Modifiers) (rows : List Binding) : List String × List Binding :=
  let vars := p.variableNames rows
  (vars, (m.apply vars rows).map (narrow vars))

end LinkedRaces
