import LinkedRaces.Format.Negotiation

/-! The formats that answers are written in, with their names and media types. -/

namespace LinkedRaces

inductive ResultsFormat
  | json | xml | csv | tsv
deriving DecidableEq, Repr, Inhabited

namespace ResultsFormat

def name : ResultsFormat → String
  | json => "json"
  | xml => "xml"
  | csv => "csv"
  | tsv => "tsv"

def all : List ResultsFormat := [json, xml, csv, tsv]

def names : List String := all.map name

def contentType : ResultsFormat → String
  | json => "application/sparql-results+json"
  | xml => "application/sparql-results+xml"
  | csv => "text/csv"
  | tsv => "text/tab-separated-values"

def ofName? (name : String) : Option ResultsFormat :=
  match Text.lowercase (Text.trim name) with
  | "json" | "srj" => some json
  | "xml" | "srx" => some xml
  | "csv" => some csv
  | "tsv" => some tsv
  | _ => none

def ofMediaType? (mediaType : String) : Option ResultsFormat :=
  match mediaEssence mediaType with
  | "application/sparql-results+json" | "application/json" => some json
  | "application/sparql-results+xml" | "application/xml" | "text/xml" => some xml
  | "text/csv" => some csv
  | "text/tab-separated-values" => some tsv
  | _ => none

def negotiate? (accept : String) : Option ResultsFormat := negotiate ofMediaType? accept

def unknownName (name : String) : String := "Unknown results format: " ++ name

end ResultsFormat

end LinkedRaces
