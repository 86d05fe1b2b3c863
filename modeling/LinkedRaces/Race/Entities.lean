import LinkedRaces.Number.Binary

/-! Events, athletes and results, and the snapshots that hold them. -/

namespace LinkedRaces

structure Event where
  id : Nat
  title : Option String
  date : Option String
  endDate : Option String
  location : Option String
  distanceKm : Option Number.Binary
  url : Option String
  description : Option String
  eventTypes : List String
  divisions : List String
deriving DecidableEq, Repr, Inhabited

structure Athlete where
  id : Nat
  givenName : Option String
  familyName : Option String
  gender : Option String
  birthYear : Option Int
  country : Option String
  clubs : List String
deriving DecidableEq, Repr, Inhabited

structure RaceResult where
  id : Nat
  eventId : Option Nat
  athleteId : Option Nat
  timeSeconds : Option Nat
  place : Option Nat
  division : Option String
  age : Option Nat
  bib : Option String
deriving DecidableEq, Repr, Inhabited

structure ResultFilter where
  eventId : Option Nat
  athleteId : Option Nat
deriving DecidableEq, Repr, Inhabited

def keeps (wanted value : Option Nat) : Bool := wanted.isNone || wanted == value

def ResultFilter.accepts (f : ResultFilter) (r : RaceResult) : Bool :=
  keeps f.eventId r.eventId && keeps f.athleteId r.athleteId

structure Snapshot where
  events : List Event
  athletes : List Athlete
  results : List RaceResult
deriving DecidableEq, Repr, Inhabited

def Snapshot.empty : Snapshot := ⟨[], [], []⟩

def Snapshot.listResults (s : Snapshot) (f : ResultFilter) : List RaceResult :=
  s.results.filter f.accepts

end LinkedRaces
