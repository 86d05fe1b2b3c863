import LinkedRaces.Graph.Writable
import LinkedRaces.Grouping
import LinkedRaces.Rdf.Namespaces

/-!
The Turtle writer. Triples are grouped by subject and then by predicate. The preamble declares
the base and every prefix; subjects below the base are written as relative references.
-/

namespace LinkedRaces.Turtle

def iriText (t : Namespaces) (iri : Iri) : String := (t.compact? iri.text).getD iri.display

def subjectText (t : Namespaces) (subject : Iri) : String :=
  match t.base.bind fun base => subject.relativeTo? base.text with
  | some relative => "<" ++ relative ++ ">"
  | none => iriText t subject

def predicateText (t : Namespaces) (predicate : Iri) : String :=
  if predicate = Vocabulary.rdfType then "a" else iriText t predicate

def literalText (t : Namespaces) (l : Literal) : String :=
  match l.kind with
  | .typed datatype => Literal.quoted l.lexical ++ "^^" ++ iriText t datatype
  | _ => l.display

def objectText (t : Namespaces) : Term → String
  | .iri i => iriText t i
  | .literal l => literalText t l
  | .var name => "?" ++ name

def preamble (t : Namespaces) : String :=
  (match t.base with
    | some base => "@base <" ++ base.text ++ "> .\n"
    | none => "") ++
  String.join (t.prefixes.entries.map fun (label, ns) =>
    "@prefix " ++ label ++ ": <" ++ ns ++ "> .\n")

def predicateLine (t : Namespaces) (predicate : Iri) (ts : List Triple) : String :=
  predicateText t predicate ++ " " ++ Text.join " , " (ts.map fun x => objectText t x.object)

def subjectBlock (t : Namespaces) (subject : Iri) (ts : List Triple) : String :=
  "\n" ++ subjectText t subject ++ " " ++
    Text.join " ;\n    " ((groupBy Triple.predicate ts).map fun (p, ts) => predicateLine t p ts) ++
    " .\n"

def write (t : Namespaces) (ts : List Triple) : Except WriteError String := do
  checkAll ts
  return preamble t ++
    String.join ((groupBy Triple.subject ts).map fun (s, ts) => subjectBlock t s ts)

end LinkedRaces.Turtle
