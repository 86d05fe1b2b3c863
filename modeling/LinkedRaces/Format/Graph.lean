import LinkedRaces.Format.Negotiation

/-! The formats that graphs are written in, with their names and media types. -/

namespace LinkedRaces

inductive GraphFormat
  | turtle | rdfXml | jsonLd | nTriples
deriving DecidableEq, Repr, Inhabited

namespace GraphFormat

def name : GraphFormat → String
  | turtle => "turtle"
  | rdfXml => "rdfxml"
  | jsonLd => "jsonld"
  | nTriples => "ntriples"

def all : List GraphFormat := [turtle, rdfXml, jsonLd, nTriples]

def names : List String := all.map name

def contentType : GraphFormat → String
  | turtle => "text/turtle"
  | rdfXml => "application/rdf+xml"
  | jsonLd => "application/ld+json"
  | nTriples => "application/n-triples"

def extension : GraphFormat → String
  | turtle => "ttl"
  | rdfXml => "rdf"
  | jsonLd => "jsonld"
  | nTriples => "nt"

def ofName? (name : String) : Option GraphFormat :=
  match Text.lowercase (Text.trim name) with
  | "turtle" | "ttl" => some turtle
  | "rdfxml" | "rdf/xml" | "rdf" | "xml" => some rdfXml
  | "jsonld" | "json-ld" | "json" => some jsonLd
  | "ntriples" | "n-triples" | "nt" => some nTriples
  | _ => none

def ofMediaType? (mediaType : String) : Option GraphFormat :=
  match mediaEssence mediaType with
  | "text/turtle" | "application/x-turtle" => some turtle
  | "application/rdf+xml" => some rdfXml
  | "application/ld+json" => some jsonLd
  | "application/n-triples" | "text/plain" => some nTriples
  | _ => none

def negotiate? (accept : String) : Option GraphFormat := negotiate ofMediaType? accept

def unknownName (name : String) : String := "Unknown RDF format: " ++ name

end GraphFormat

end LinkedRaces
