import LinkedRaces.Graph.Writable
import LinkedRaces.Grouping
import LinkedRaces.Json.Printer
import LinkedRaces.Rdf.Namespaces

/-!
The JSON-LD writer. The namespace table becomes the context, each subject one node. Integers and
booleans in their usual spelling become native values.
-/

namespace LinkedRaces.JsonLd

def compact (t : Namespaces) (iri : Iri) : String := (t.compact? iri.text).getD iri.text

def native? (l : Literal) (datatype : Iri) : Option Json :=
  if datatype = Vocabulary.xsdInteger then l.integer?.map Json.ofInt
  else if datatype = Vocabulary.xsdBoolean then
    if l.lexical = "true" then some (.bool true)
    else if l.lexical = "false" then some (.bool false)
    else none
  else none

def literalValue (t : Namespaces) (l : Literal) : Json :=
  match l.kind with
  | .plain => .string l.lexical
  | .language tag => .object [("@value", .string l.lexical), ("@language", .string tag)]
  | .typed datatype =>
    (native? l datatype).getD
      (.object [("@value", .string l.lexical), ("@type", .string (compact t datatype))])

def objectValue (t : Namespaces) : Term → Except WriteError Json
  | .iri i => .ok (.object [("@id", .string i.text)])
  | .literal l => .ok (literalValue t l)
  | .var name => .error (.unboundVariable name)

/-- A single value stands alone, several make an array. -/
def collapse : List Json → Json
  | [value] => value
  | values => .array values

def node (t : Namespaces) (subject : Iri) (xs : List Triple) : Except WriteError Json := do
  let classes := xs.filterMap Triple.class?
  let rest := xs.filter fun x => x.class?.isNone
  let properties ← (groupBy (fun x => compact t x.predicate) rest).mapM fun (key, xs) => do
    return (key, collapse (← xs.mapM fun x => objectValue t x.object))
  return .object (("@id", .string subject.text) ::
    (if classes.isEmpty then []
      else [("@type", collapse (classes.map fun c => .string (compact t c)))]) ++ properties)

def document (t : Namespaces) (ts : List Triple) : Except WriteError Json := do
  checkAll ts
  let graph ← (groupBy Triple.subject ts).mapM fun (subject, xs) => node t subject xs
  let context := t.prefixes.entries.map fun (label, ns) => (label, Json.string ns)
  return .object [("@context", .object context), ("@graph", .array graph)]

def write (t : Namespaces) (ts : List Triple) : Except WriteError String := do
  return (← document t ts).pretty ++ "\n"

end LinkedRaces.JsonLd
