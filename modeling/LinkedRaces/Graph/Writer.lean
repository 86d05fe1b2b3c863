import LinkedRaces.Format.Graph
import LinkedRaces.Graph.JsonLd
import LinkedRaces.Graph.RdfXml
import LinkedRaces.Graph.Turtle.Writer
import LinkedRaces.Graph.Writable

/-!
Graphs as text, in any of the formats. N-Triples, which has one triple on a line and every name in
full, is short enough to stand here.
-/

namespace LinkedRaces.NTriples

def line (t : Triple) : Except WriteError String := do
  t.check
  return t.display ++ "\n"

def write (ts : List Triple) : Except WriteError String := do
  return String.join (← ts.mapM line)

end LinkedRaces.NTriples

namespace LinkedRaces

def writeGraph (t : Namespaces) (ts : List Triple) : GraphFormat → Except WriteError String
  | .turtle => Turtle.write t ts
  | .rdfXml => RdfXml.write t ts
  | .jsonLd => JsonLd.write t ts
  | .nTriples => NTriples.write ts

end LinkedRaces
