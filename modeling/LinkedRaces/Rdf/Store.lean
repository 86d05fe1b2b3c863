import LinkedRaces.Rdf.Term

/-! Stores: triples in the order in which they came, repetitions kept. -/

namespace LinkedRaces

structure Store where
  triples : List Triple
deriving DecidableEq, Repr, Inhabited

namespace Store

def empty : Store := ⟨[]⟩

def addAll (s : Store) (ts : List Triple) : Store := ⟨s.triples ++ ts⟩

def add (s : Store) (t : Triple) : Store := s.addAll [t]

def contains (s : Store) (t : Triple) : Bool := s.triples.contains t

def size (s : Store) : Nat := s.triples.length

def isEmpty (s : Store) : Bool := s.triples.isEmpty

def about (s : Store) (subject : Iri) : List Triple := s.triples.filter (·.subject == subject)

def display (s : Store) : String :=
  "TripleStore \x7b\n" ++ String.join (s.triples.map fun t => "  " ++ t.display ++ "\n") ++ "\x7d"

end Store

end LinkedRaces
