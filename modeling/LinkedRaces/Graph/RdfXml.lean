import LinkedRaces.Graph.Writable
import LinkedRaces.Grouping
import LinkedRaces.Rdf.Namespaces
import LinkedRaces.Xml.Element

/-!
The RDF/XML writer. Each subject is one element, named after the first of its classes that has an
element name; that triple is not repeated inside. Namespaces without a prefix get a fresh one, and
the root declares them all.
-/

namespace LinkedRaces.RdfXml

def isElementName : List Char → Bool
  | [] => false
  | c :: rest => (Text.isAlphabetic c || c == '_') && rest.all isNameChar

/-- The namespaces declared so far, each with its prefix, and the number for the next fresh one. -/
structure Declarations where
  prefixes : Dictionary String
  next : Nat
deriving DecidableEq, Repr

namespace Declarations

def declareIfNew (d : Dictionary String) (entry : String × String) : Dictionary String :=
  if entry.1.isEmpty || d.contains entry.2 then d else d.insert entry.2 entry.1

/-- Of several prefixes for one namespace the first is kept, and `rdf` always means its own. -/
def ofNamespaces (t : Namespaces) : Declarations :=
  ⟨t.prefixes.entries.foldl declareIfNew (Dictionary.empty.insert Vocabulary.rdf "rdf"), 0⟩

def freshLabel (n : Nat) : String := "ns" ++ toString n

/-- The first number from `n` on whose label is not in the table: one of the next `size + 1`. -/
def freshFrom (t : Namespaces) (n : Nat) : Nat :=
  ((List.range' n (t.prefixes.size + 1)).find? fun k => (t.get? (freshLabel k)).isNone).getD n

def elementName (t : Namespaces) (d : Declarations) (iri : Iri) : Option String × Declarations :=
  let (ns, name) := Iri.splitName iri.text.toList
  if !isElementName name || ns.isEmpty then (none, d)
  else
    let ns := String.ofList ns
    let name := String.ofList name
    match d.prefixes.get? ns with
    | some label => (some (label ++ ":" ++ name), d)
    | none =>
      let k := freshFrom t d.next
      (some (freshLabel k ++ ":" ++ name), ⟨d.prefixes.insert ns (freshLabel k), k + 1⟩)

end Declarations

open Declarations

def property (t : Namespaces) (d : Declarations) (x : Triple) :
    Except WriteError (Xml.Node × Declarations) :=
  match elementName t d x.predicate with
  | (none, _) => .error (.unnamedPredicate x.predicate)
  | (some name, d) =>
    match x.object with
    | .iri i => .ok (.element name [("rdf:resource", i.text)] [], d)
    | .literal l =>
      let attributes := match l.kind with
        | .plain => []
        | .language tag => [("xml:lang", tag)]
        | .typed datatype => [("rdf:datatype", datatype.text)]
      .ok (.element name attributes [.text l.lexical], d)
    | .var name => .error (.unboundVariable name)

def properties (t : Namespaces) (d : Declarations) :
    List Triple → Except WriteError (List Xml.Node × Declarations)
  | [] => .ok ([], d)
  | x :: xs => do
    let (node, d) ← property t d x
    let (nodes, d) ← properties t d xs
    .ok (node :: nodes, d)

/-- The first class with an element name, and all triples but the one that states it. -/
def splitClass (t : Namespaces) (d : Declarations) :
    List Triple → Option (String × Declarations × List Triple)
  | [] => none
  | x :: xs =>
    match x.class?.map (elementName t d) with
    | some (some name, d) => some (name, d, xs)
    | _ => (splitClass t d xs).map fun (name, d, rest) => (name, d, x :: rest)

def description (t : Namespaces) (d : Declarations) (subject : Iri) (xs : List Triple) :
    Except WriteError (Xml.Node × Declarations) := do
  let (name, d, rest) := (splitClass t d xs).getD ("rdf:Description", d, xs)
  let (nodes, d) ← properties t d rest
  .ok (.element name [("rdf:about", subject.text)] nodes, d)

def descriptions (t : Namespaces) (d : Declarations) :
    List (Iri × List Triple) → Except WriteError (List Xml.Node × Declarations)
  | [] => .ok ([], d)
  | (subject, xs) :: rest => do
    let (node, d) ← description t d subject xs
    let (nodes, d) ← descriptions t d rest
    .ok (node :: nodes, d)

def root (t : Namespaces) (ts : List Triple) : Except WriteError Xml.Node := do
  checkAll ts
  let (nodes, d) ← descriptions t (ofNamespaces t) (groupBy Triple.subject ts)
  let declared := d.prefixes.entries.map fun (ns, label) => ("xmlns:" ++ label, ns)
  .ok (.element "rdf:RDF" declared nodes)

def write (t : Namespaces) (ts : List Triple) : Except WriteError String := do
  return Xml.document (← root t ts)

end LinkedRaces.RdfXml
