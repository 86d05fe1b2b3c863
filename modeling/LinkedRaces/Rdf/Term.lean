import LinkedRaces.Dictionary
import LinkedRaces.Rdf.Literal
import LinkedRaces.Rdf.Vocabulary

/-!
Terms, triples and triple patterns. A triple has IRIs as subject and predicate, so a literal cannot
stand there; a pattern may have a variable in each place.
-/

namespace LinkedRaces

inductive Term
  | iri (iri : Iri)
  | literal (literal : Literal)
  | var (name : String)
deriving DecidableEq, Repr, Inhabited

namespace Term

def isVar : Term → Bool
  | .var _ => true
  | _ => false

def stringValue : Term → String
  | .iri i => i.text
  | .literal l => l.lexical
  | .var name => name

def display : Term → String
  | .iri i => i.display
  | .literal l => l.display
  | .var name => "?" ++ name

end Term

abbrev Binding := Dictionary Term

def Term.substitute (t : Term) (b : Binding) : Term :=
  match t with
  | .var name => (b.get? name).getD t
  | _ => t

structure Triple where
  subject : Iri
  predicate : Iri
  object : Term
deriving DecidableEq, Repr, Inhabited

def Triple.display (t : Triple) : String :=
  t.subject.display ++ " " ++ t.predicate.display ++ " " ++ t.object.display ++ " ."

def Triple.class? (t : Triple) : Option Iri :=
  match t.object with
  | .iri c => if t.predicate = Vocabulary.rdfType then some c else none
  | _ => none

theorem Triple.eq_of_class? {t : Triple} {c : Iri} (h : t.class? = some c) :
    t = ⟨t.subject, Vocabulary.rdfType, .iri c⟩ := by
  obtain ⟨subject, predicate, object⟩ := t
  unfold class? at h
  split at h
  next c' hobject =>
    obtain ⟨hpredicate, hc⟩ := Option.ite_none_right_eq_some.1 h
    cases hc
    simp only at hobject hpredicate
    rw [hobject, hpredicate]
  next => cases h

structure TriplePattern where
  subject : Term
  predicate : Term
  object : Term
deriving DecidableEq, Repr, Inhabited

namespace TriplePattern

def terms (p : TriplePattern) : List Term := [p.subject, p.predicate, p.object]

def variableNames (p : TriplePattern) : List String :=
  p.terms.filterMap fun
    | .var name => some name
    | _ => none

def substitute (p : TriplePattern) (b : Binding) : TriplePattern :=
  ⟨p.subject.substitute b, p.predicate.substitute b, p.object.substitute b⟩

/-- The triple that the pattern becomes under `b`: none if a variable is left, or if a literal would
be subject or predicate. -/
def instantiate? (p : TriplePattern) (b : Binding) : Option Triple :=
  match p.subject.substitute b, p.predicate.substitute b, p.object.substitute b with
  | .iri _, .iri _, .var _ => none
  | .iri s, .iri p, o => some ⟨s, p, o⟩
  | _, _, _ => none

end TriplePattern

end LinkedRaces
