import LinkedRaces.Number.Shortest
import LinkedRaces.Race.Duration
import LinkedRaces.Race.Entities
import LinkedRaces.Race.Slug
import LinkedRaces.Rdf.Term
import LinkedRaces.Rdf.Vocabulary

/-!
Entities as triples. Each entity states its classes, then one triple for each attribute that is
present and well formed, then its links to concepts, each followed by the label of the concept. An
attribute that is malformed is left out; all else is mapped as if it were missing.
-/

namespace LinkedRaces

inductive AttributeFault
  | missing
  | empty
  | invalid (value : String)
deriving DecidableEq, Repr, Inhabited

structure MappingError where
  entity : String
  id : Nat
  field : String
  fault : AttributeFault
deriving DecidableEq, Repr, Inhabited

def MappingError.message (e : MappingError) : String :=
  let subject := e.entity ++ " " ++ toString e.id ++ ": "
  match e.fault with
  | .missing => subject ++ "missing required field '" ++ e.field ++ "'"
  | .empty => subject ++ "field '" ++ e.field ++ "' is empty"
  | .invalid value => subject ++ "invalid value for '" ++ e.field ++ "': " ++ value

/-- The value of an attribute, nothing if it is not given, or what is wrong with it. -/
abbrev Attribute := Except AttributeFault (Option Term)

namespace Mapping

/-- The base of all minted IRIs: one that does not end in a slash or `#` gets a slash. -/
def normalBase (base : String) : String :=
  match base.toList.getLast? with
  | some '/' | some '#' => base
  | _ => base ++ "/"

def entityIri (base collection : String) (id : Nat) : Iri :=
  ⟨base ++ collection ++ "/" ++ toString id⟩

def eventIri (base : String) (id : Nat) : Iri := entityIri base "events" id
def athleteIri (base : String) (id : Nat) : Iri := entityIri base "athletes" id
def resultIri (base : String) (id : Nat) : Iri := entityIri base "results" id

def conceptIri (base kind label : String) : Iri := ⟨base ++ kind ++ "/" ++ slug label⟩

def trimmed? (value : Option String) : Option String :=
  (value.map Text.trim).filter (!·.isEmpty)

def plain? (value : Option String) : Option Term :=
  (trimmed? value).map fun s => .literal (.plain s)

def date? (value : Option String) : Option Term :=
  (trimmed? value).map fun s => .literal (.typed s Vocabulary.xsdDate)

def natural? (value : Option Nat) (datatype : Iri) : Option Term :=
  value.map fun n => .literal (.typed (toString n) datatype)

def title (value : Option String) : Attribute :=
  match value with
  | none => .ok none
  | some s =>
    let s := Text.trim s
    if s.isEmpty then .error .empty else .ok (some (.literal (.plain s)))

open Number (Binary binary64)

def distanceText (x : Binary) : String :=
  (if x.negative then "-" else "") ++ Number.magnitudeText binary64 x.magnitude

def distance (value : Option Binary) : Attribute :=
  match value with
  | none => .ok none
  | some x =>
    if !x.isFinite binary64 || (x.negative && !x.isZero) then .error (.invalid (x.display binary64))
    else .ok (some (.literal (.typed (distanceText x) Vocabulary.xsdDecimal)))

def address (value : Option String) : Attribute :=
  match trimmed? value with
  | none => .ok none
  | some s =>
    if Text.occursIn "://".toList s.toList then .ok (some (.iri ⟨s⟩)) else .error (.invalid s)

def place (value : Option Nat) : Attribute :=
  match value with
  | none => .ok none
  | some 0 => .error (.invalid "0")
  | some n => .ok (some (.literal (.typed (toString n) Vocabulary.xsdPositiveInteger)))

def link (iri : Nat → Iri) (id : Option Nat) : Attribute :=
  match id with
  | some id => .ok (some (.iri (iri id)))
  | none => .error .missing

/-- A year has at least four characters, its sign included. -/
def yearText (year : Int) : String :=
  let digits := toString year.natAbs
  let sign := if year < 0 then "-" else ""
  sign ++ String.ofList (List.replicate (4 - sign.length - digits.length) '0') ++ digits

def fact (s p : Iri) (value : Option Term) : List Triple := (value.map (⟨s, p, ·⟩)).toList

def checked (s p : Iri) (attr : Attribute) : List Triple :=
  match attr with
  | .ok value => fact s p value
  | .error _ => []

/-- A link to a concept for each label, and the label of the concept. -/
def concepts (base kind : String) (s p labelled : Iri) (labels : List String) : List Triple :=
  (labels.map Text.trim).flatMap fun label =>
    if label.isEmpty then []
    else
      let concept := conceptIri base kind label
      [⟨s, p, .iri concept⟩, ⟨concept, labelled, .literal (.plain label)⟩]

open Vocabulary

def isA (s cls : Iri) : Triple := ⟨s, rdfType, .iri cls⟩

def event (base : String) (e : Event) : List Triple :=
  let s := eventIri base e.id
  [isA s (schemaName "Event"), isA s (schemaName "SportsEvent")] ++
  checked s (schemaName "name") (title e.title) ++
  fact s (schemaName "startDate") (date? e.date) ++
  fact s (schemaName "endDate") (date? e.endDate) ++
  fact s (schemaName "location") (plain? e.location) ++
  checked s (raceName "distanceKm") (distance e.distanceKm) ++
  checked s (schemaName "url") (address e.url) ++
  fact s (schemaName "description") (plain? e.description) ++
  concepts base "event-types" s (raceName "eventType") (skosName "prefLabel") e.eventTypes ++
  concepts base "divisions" s (raceName "division") (skosName "prefLabel") e.divisions

def fullName? (a : Athlete) : Option Term := do
  let given ← trimmed? a.givenName
  let family ← trimmed? a.familyName
  return .literal (.plain (given ++ " " ++ family))

def athlete (base : String) (a : Athlete) : List Triple :=
  let s := athleteIri base a.id
  [isA s (schemaName "Person")] ++
  fact s (schemaName "givenName") (plain? a.givenName) ++
  fact s (schemaName "familyName") (plain? a.familyName) ++
  fact s (schemaName "name") (fullName? a) ++
  fact s (schemaName "gender") (plain? a.gender) ++
  fact s (raceName "birthYear")
    (a.birthYear.map fun y => .literal (.typed (yearText y) xsdYear)) ++
  fact s (schemaName "nationality") (plain? a.country) ++
  concepts base "clubs" s (schemaName "memberOf") (schemaName "name") a.clubs

def result (base : String) (r : RaceResult) : List Triple :=
  let s := resultIri base r.id
  [isA s (raceName "RaceResult")] ++
  checked s (raceName "event") (link (eventIri base) r.eventId) ++
  checked s (raceName "athlete") (link (athleteIri base) r.athleteId) ++
  fact s (raceName "timeSeconds") (natural? r.timeSeconds xsdInteger) ++
  fact s (raceName "time")
    (r.timeSeconds.map fun n => .literal (.typed (formatDuration n) xsdDuration)) ++
  checked s (raceName "place") (place r.place) ++
  fact s (raceName "division") (plain? r.division) ++
  fact s (raceName "age") (natural? r.age xsdInteger) ++
  fact s (raceName "bib") (plain? r.bib)

def snapshot (base : String) (s : Snapshot) : List Triple :=
  s.events.flatMap (event base) ++ s.athletes.flatMap (athlete base) ++
    s.results.flatMap (result base)

end Mapping

end LinkedRaces
