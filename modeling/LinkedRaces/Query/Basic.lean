import LinkedRaces.Query.Expression
import LinkedRaces.Rdf.Namespaces

/-!
Queries. A group has required patterns, optional blocks and filters; a block has no blocks of its
own, so optional parts are never nested.
-/

namespace LinkedRaces

structure Block where
  required : List TriplePattern
  filters : List Expression
deriving DecidableEq, Repr, Inhabited

structure Group where
  required : List TriplePattern
  optionals : List Block
  filters : List Expression
deriving DecidableEq, Repr, Inhabited

namespace Group

def empty : Group := ⟨[], [], []⟩

def isEmpty (g : Group) : Bool := g.required.isEmpty && g.optionals.isEmpty && g.filters.isEmpty

def isPlain (g : Group) : Bool := g.optionals.isEmpty && g.filters.isEmpty

end Group

inductive Projection
  | all
  | vars (names : List String)
deriving DecidableEq, Repr, Inhabited

inductive QueryForm
  | select (projection : Projection)
  | construct (template : List TriplePattern)
  | ask
  /-- The IRIs and variables to describe; none at all stands for every variable. -/
  | describe (resources : List Term)
deriving DecidableEq, Repr, Inhabited

def QueryForm.name : QueryForm → String
  | select _ => "SELECT"
  | construct _ => "CONSTRUCT"
  | ask => "ASK"
  | describe _ => "DESCRIBE"

structure OrderKey where
  var : String
  ascending : Bool
deriving DecidableEq, Repr, Inhabited

/-- Applied in this order: duplicates, order, offset, limit. -/
structure Modifiers where
  distinct : Bool
  orderBy : List OrderKey
  limit : Nat
  offset : Nat
deriving DecidableEq, Repr, Inhabited

def Modifiers.ofLimit (limit : Nat) : Modifiers := ⟨false, [], limit, 0⟩

structure Query where
  form : QueryForm
  group : Group
  modifiers : Modifiers
  /-- The table that the query was read with, and what it declared itself. -/
  namespaces : Namespaces
deriving DecidableEq, Repr, Inhabited

def Query.variableNames (q : Query) : List String :=
  match q.form with
  | .select (.vars names) => names
  | _ => []

/-- The limit of a query that gives none, unless another is configured. -/
def defaultLimit : Nat := 10000

end LinkedRaces
