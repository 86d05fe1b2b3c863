import LinkedRaces.Query.Matching
import LinkedRaces.Query.Parser.Forms
import LinkedRaces.Query.Solutions

/-! Answers of queries: rows, a boolean, or a graph. -/

namespace LinkedRaces

inductive Answer
  | solutions (vars : List String) (rows : List Binding)
  | boolean (value : Bool)
  | graph (triples : List Triple)
deriving DecidableEq, Repr, Inhabited

namespace Answer

def kind : Answer → String
  | solutions .. => "solutions"
  | boolean _ => "boolean"
  | graph _ => "graph"

def size : Answer → Nat
  | solutions _ rows => rows.length
  | boolean _ => 1
  | graph triples => triples.length

end Answer

def construct (template : List TriplePattern) (rows : List Binding) : List Triple :=
  (rows.flatMap fun row => template.filterMap (·.instantiate? row)).eraseDups

def Term.iri? : Term → Option Iri
  | .iri i => some i
  | _ => none

def describedBy (rows : List Binding) : Term → List Iri
  | .iri i => [i]
  | .var name => rows.filterMap fun row => (row.get? name).bind Term.iri?
  | .literal _ => []

/-- All IRIs to describe: with no resources given, those that any variable is bound to. -/
def describedIris (resources : List Term) (rows : List Binding) : List Iri :=
  if resources.isEmpty then rows.flatMap fun row => row.entries.filterMap (·.2.iri?)
  else resources.flatMap (describedBy rows)

def describe (s : Store) (resources : List Term) (rows : List Binding) : List Triple :=
  ((describedIris resources rows).eraseDups.flatMap s.about).eraseDups

/-- The rows that make a graph: the modifiers apply to all bound variables. -/
def Query.page (q : Query) (rows : List Binding) : List Binding :=
  q.modifiers.apply (boundVariables rows) rows

def Query.execute (q : Query) (s : Store) : Answer :=
  let rows := s.solve q.group
  match q.form with
  | .select p =>
    let (vars, rows) := project p q.modifiers rows
    .solutions vars rows
  | .ask => .boolean !rows.isEmpty
  | .construct template => .graph (construct template (q.page rows))
  | .describe resources => .graph (describe s resources (q.page rows))

def Store.query (s : Store) (text : String) : Except QueryError Answer := do
  return (← Query.parse text).execute s

end LinkedRaces
