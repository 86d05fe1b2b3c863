import LinkedRaces.Query.Basic
import LinkedRaces.Query.Filter
import LinkedRaces.Rdf.Store

/-!
Solutions of groups. Each required pattern extends every row by all triples that fit; an optional
block extends a row where it can and leaves it as it is where it cannot; the filters come last.
-/

namespace LinkedRaces

/-- A free variable takes the value; anything else has to agree with it. -/
def Term.matchValue? (p value : Term) (row : Binding) : Option Binding :=
  match p with
  | .var name =>
    match row.get? name with
    | some known => if known = value then some row else none
    | none => some (row.insert name value)
  | p => if p = value then some row else none

def TriplePattern.matchTriple? (p : TriplePattern) (t : Triple) (row : Binding) :
    Option Binding := do
  let row ← p.subject.matchValue? (.iri t.subject) row
  let row ← p.predicate.matchValue? (.iri t.predicate) row
  p.object.matchValue? t.object row

namespace Store

def extend (s : Store) (p : TriplePattern) (row : Binding) : List Binding :=
  s.triples.filterMap fun t => (p.substitute row).matchTriple? t row

def join (s : Store) (p : TriplePattern) (rows : List Binding) : List Binding :=
  rows.flatMap (s.extend p)

/-- All ways to extend the rows by one triple for each pattern, up to the first pattern that leaves
no row. -/
def joinAll (s : Store) : List TriplePattern → List Binding → List Binding
  | [], rows => rows
  | p :: ps, rows =>
    match s.join p rows with
    | [] => []
    | rows => s.joinAll ps rows

theorem joinAll_of_no_row (s : Store) (ps : List TriplePattern) : s.joinAll ps [] = [] := by
  cases ps <;> rfl

theorem joinAll_cons (s : Store) (p : TriplePattern) (ps : List TriplePattern)
    (rows : List Binding) : s.joinAll (p :: ps) rows = s.joinAll ps (s.join p rows) := by
  cases h : s.join p rows with
  | nil => rw [joinAll, h, joinAll_of_no_row]
  | cons r rs => rw [joinAll, h]

def solveBlock (s : Store) (b : Block) (row : Binding) : List Binding :=
  (s.joinAll b.required [row]).filter (passesAll b.filters)

def leftExtend (s : Store) (b : Block) (row : Binding) : List Binding :=
  match s.solveBlock b row with
  | [] => [row]
  | rows => rows

def leftJoin (s : Store) (b : Block) (rows : List Binding) : List Binding :=
  rows.flatMap (s.leftExtend b)

/-- The solutions of a group, in the order of the store. Without a row for the required patterns
the rest is not looked at. -/
def solve (s : Store) (g : Group) : List Binding :=
  match s.joinAll g.required [.empty] with
  | [] => []
  | rows => (g.optionals.foldl (fun rows b => s.leftJoin b rows) rows).filter (passesAll g.filters)

theorem foldl_leftJoin_of_no_row (s : Store) (bs : List Block) :
    bs.foldl (fun rows b => s.leftJoin b rows) [] = [] := by
  induction bs with
  | nil => rfl
  | cons b bs ih => exact ih

/-- Looking at the rest all the same changes nothing: optional blocks and filters add no row. -/
theorem solve_eq (s : Store) (g : Group) :
    s.solve g = (g.optionals.foldl (fun rows b => s.leftJoin b rows)
      (s.joinAll g.required [.empty])).filter (passesAll g.filters) := by
  rw [solve]
  cases s.joinAll g.required [.empty] with
  | nil => rw [foldl_leftJoin_of_no_row, List.filter_nil]
  | cons r rs => rfl

end Store

end LinkedRaces
