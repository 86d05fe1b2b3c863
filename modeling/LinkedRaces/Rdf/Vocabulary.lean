import LinkedRaces.Rdf.Iri

/-! The namespaces and names that the data is described with. -/

namespace LinkedRaces.Vocabulary

def rdf : String := "http://www.w3.org/1999/02/22-rdf-syntax-ns#"
def rdfs : String := "http://www.w3.org/2000/01/rdf-schema#"
def xsd : String := "http://www.w3.org/2001/XMLSchema#"
def owl : String := "http://www.w3.org/2002/07/owl#"
def schema : String := "http://schema.org/"
def skos : String := "http://www.w3.org/2004/02/skos/core#"
def dcterms : String := "http://purl.org/dc/terms/"
def foaf : String := "http://xmlns.com/foaf/0.1/"
def serviceDescription : String := "http://www.w3.org/ns/sparql-service-description#"

def race : String := "http://racegraph.org/vocab#"

def rdfType : Iri := ⟨rdf ++ "type"⟩
def schemaName (name : String) : Iri := ⟨schema ++ name⟩
def raceName (name : String) : Iri := ⟨race ++ name⟩
def skosName (name : String) : Iri := ⟨skos ++ name⟩
def serviceName (name : String) : Iri := ⟨serviceDescription ++ name⟩

def xsdInteger : Iri := ⟨xsd ++ "integer"⟩
def xsdPositiveInteger : Iri := ⟨xsd ++ "positiveInteger"⟩
def xsdDecimal : Iri := ⟨xsd ++ "decimal"⟩
def xsdDouble : Iri := ⟨xsd ++ "double"⟩
def xsdBoolean : Iri := ⟨xsd ++ "boolean"⟩
def xsdDate : Iri := ⟨xsd ++ "date"⟩
def xsdYear : Iri := ⟨xsd ++ "gYear"⟩
def xsdDuration : Iri := ⟨xsd ++ "duration"⟩

end LinkedRaces.Vocabulary
