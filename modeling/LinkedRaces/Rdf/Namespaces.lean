import LinkedRaces.Rdf.Term
import LinkedRaces.Rdf.Vocabulary
import LinkedRaces.Text.Alphabetic

/-!
Namespace tables: prefixes with their namespaces, and a base. A prefixed name is short for the
namespace followed by the local name; compaction takes the longest namespace that leaves a local
name.
-/

namespace LinkedRaces

def wellKnownNamespaces : List (String × String) := [
  ("rdf", Vocabulary.rdf), ("rdfs", Vocabulary.rdfs), ("xsd", Vocabulary.xsd),
  ("owl", Vocabulary.owl), ("schema", Vocabulary.schema), ("skos", Vocabulary.skos),
  ("dcterms", Vocabulary.dcterms), ("foaf", Vocabulary.foaf), ("race", Vocabulary.race)]

def isNameChar (c : Char) : Bool := Text.isAlphanumeric c || c == '_' || c == '-' || c == '.'

def isLocalName : List Char → Bool
  | [] => false
  | c :: rest =>
    (Text.isAlphanumeric c || c == '_') && rest.all isNameChar && (c :: rest).getLast? != some '.'

def isPrefixLabel : List Char → Bool
  | [] => true
  | c :: rest =>
    Text.isAlphabetic c && rest.all fun d => Text.isAlphanumeric d || d == '_' || d == '-'

structure Namespaces where
  prefixes : Dictionary String
  base : Option Iri
deriving DecidableEq, Repr, Inhabited

namespace Namespaces

def empty : Namespaces := ⟨∅, none⟩

def wellKnown : Namespaces := ⟨Dictionary.ofList wellKnownNamespaces, none⟩

def insert (t : Namespaces) (label ns : String) : Namespaces :=
  { t with prefixes := t.prefixes.insert label ns }

def setBase (t : Namespaces) (base : Iri) : Namespaces := { t with base := some base }

def extend (t other : Namespaces) : Namespaces :=
  { t with prefixes := t.prefixes.insertAll other.prefixes.entries }

def get? (t : Namespaces) (label : String) : Option String := t.prefixes.get? label

def expand? (t : Namespaces) (label name : String) : Option Iri :=
  (t.get? label).map fun ns => ⟨ns ++ name⟩

def expandPrefixed? (t : Namespaces) (text : String) : Option Iri :=
  (Text.splitAt? [':'] text.toList).bind fun (label, name) =>
    t.expand? (String.ofList label) (String.ofList name)

def resolve (t : Namespaces) (reference : String) : Iri :=
  match t.base with
  | some base => base.resolve reference
  | none => ⟨reference⟩

structure Abbreviation where
  label : String
  ns : String
  name : List Char
deriving DecidableEq, Repr

def Abbreviation.text (a : Abbreviation) : String := a.label ++ ":" ++ String.ofList a.name

def abbreviation? (iri : List Char) (entry : String × String) : Option Abbreviation :=
  ((Text.dropBeginning? entry.2.toList iri).filter isLocalName).map (⟨entry.1, entry.2, ·⟩)

/-- The last among the longest. -/
def longest : List Abbreviation → Option Abbreviation
  | [] => none
  | a :: rest =>
    match longest rest with
    | none => some a
    | some b => if b.ns.utf8ByteSize < a.ns.utf8ByteSize then some a else some b

def compact? (t : Namespaces) (iri : String) : Option String :=
  (longest (t.prefixes.entries.filterMap (abbreviation? iri.toList))).map Abbreviation.text

end Namespaces

end LinkedRaces
