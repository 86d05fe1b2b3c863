import LinkedRaces.Rdf.Term

/-!
What writers refuse: a variable that was never bound, and an IRI that no format can spell. All
writers run the same check before they write anything.
-/

namespace LinkedRaces

inductive WriteError
  | unboundVariable (name : String)
  | malformedIri (iri : String)
  | incompatible (result format : String)
  | unnamedPredicate (predicate : Iri)
  | failed (reason : String)
deriving DecidableEq, Repr, Inhabited

def WriteError.message : WriteError → String
  | unboundVariable name => "unbound variable ?" ++ name ++ " reached a serializer"
  | malformedIri iri => "malformed IRI <" ++ iri ++ ">"
  | incompatible result format => result ++ " results cannot be written as " ++ format
  | unnamedPredicate p => "write failed: predicate <" ++ p.text ++ "> has no RDF/XML element name"
  | failed reason => "write failed: " ++ reason

def isUnwritable (c : Char) : Bool :=
  Text.isBlank c || Text.isControl c || "<>\"\x7b\x7d|^\x60\\".toList.contains c

def Iri.check (iri : Iri) : Except WriteError Unit :=
  let cs := iri.text.toList
  if cs.isEmpty || !cs.contains ':' || cs.any isUnwritable then .error (.malformedIri iri.text)
  else .ok ()

def Term.check : Term → Except WriteError Unit
  | .iri i => i.check
  | .literal l =>
    match l.datatype? with
    | some datatype => datatype.check
    | none => .ok ()
  | .var name => .error (.unboundVariable name)

def Triple.check (t : Triple) : Except WriteError Unit := do
  t.subject.check
  t.predicate.check
  t.object.check

def checkAll : List Triple → Except WriteError Unit
  | [] => .ok ()
  | t :: ts => do
    t.check
    checkAll ts

end LinkedRaces
