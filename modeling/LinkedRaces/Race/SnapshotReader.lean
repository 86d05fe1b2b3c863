import LinkedRaces.Json.Reader
import LinkedRaces.Json.Scaling
import LinkedRaces.Race.Entities

/-!
Snapshots from JSON. An entity is an object, or an array of its attributes in order. Unknown fields
are ignored, missing ones take their defaults, and a known field may come only once.
-/

namespace LinkedRaces

namespace SnapshotReader

def fields? (names : List String) : Json → Option (List (Option Json))
  | .object fields =>
    names.mapM fun name =>
      match fields.filter (·.1 == name) with
      | [] => some none
      | [(_, value)] => some (some value)
      | _ => none
  | .array items =>
    if items.length ≤ names.length then
      some (items.map some ++ List.replicate (names.length - items.length) none)
    else none
  | _ => none

def text? : Json → Option String
  | .string text => some text
  | _ => none

def integerIn? (least greatest : Int) : Json → Option Int
  | .number n => n.integer?.filter fun k => least ≤ k && k ≤ greatest
  | _ => none

def word? (bits : Nat) (j : Json) : Option Nat :=
  (integerIn? 0 (Number.wordCount bits - 1 : Nat) j).map Int.toNat

def year? : Json → Option Int := integerIn? (-2147483648) 2147483647

def real? : Json → Option Number.Binary
  | .number n => n.toBinary?
  | _ => none

def list? {α : Type} (read : Json → Option α) : Json → Option (List α)
  | .array items => items.mapM read
  | _ => none

/-- A field that may be missing or null. -/
def optional {α : Type} (read : Json → Option α) : Option Json → Option (Option α)
  | none | some .null => some none
  | some j => (read j).map some

/-- A field that may be missing. -/
def withDefault {α : Type} (default : α) (read : Json → Option α) : Option Json → Option α
  | none => some default
  | some j => read j

def event? (j : Json) : Option Event := do
  match ← fields? ["id", "title", "date", "end_date", "location", "distance_km", "url",
      "description", "event_types", "divisions"] j with
  | [id, title, date, endDate, location, distanceKm, url, description, eventTypes, divisions] =>
    return {
      id := ← withDefault 0 (word? 64) id
      title := ← optional text? title
      date := ← optional text? date
      endDate := ← optional text? endDate
      location := ← optional text? location
      distanceKm := ← optional real? distanceKm
      url := ← optional text? url
      description := ← optional text? description
      eventTypes := ← withDefault [] (list? text?) eventTypes
      divisions := ← withDefault [] (list? text?) divisions }
  | _ => none

def athlete? (j : Json) : Option Athlete := do
  match ← fields? ["id", "given_name", "family_name", "gender", "birth_year", "country", "clubs"]
      j with
  | [id, givenName, familyName, gender, birthYear, country, clubs] =>
    return {
      id := ← withDefault 0 (word? 64) id
      givenName := ← optional text? givenName
      familyName := ← optional text? familyName
      gender := ← optional text? gender
      birthYear := ← optional year? birthYear
      country := ← optional text? country
      clubs := ← withDefault [] (list? text?) clubs }
  | _ => none

def result? (j : Json) : Option RaceResult := do
  match ← fields? ["id", "event_id", "athlete_id", "time_seconds", "place", "division", "age",
      "bib"] j with
  | [id, eventId, athleteId, timeSeconds, place, division, age, bib] =>
    return {
      id := ← withDefault 0 (word? 64) id
      eventId := ← optional (word? 64) eventId
      athleteId := ← optional (word? 64) athleteId
      timeSeconds := ← optional (word? 64) timeSeconds
      place := ← optional (word? 32) place
      division := ← optional text? division
      age := ← optional (word? 32) age
      bib := ← optional text? bib }
  | _ => none

def snapshot? (j : Json) : Option Snapshot := do
  match ← fields? ["events", "athletes", "results"] j with
  | [events, athletes, results] =>
    return {
      events := ← withDefault [] (list? event?) events
      athletes := ← withDefault [] (list? athlete?) athletes
      results := ← withDefault [] (list? result?) results }
  | _ => none

end SnapshotReader

def Snapshot.read? (text : String) : Option Snapshot :=
  (Json.read? text).bind SnapshotReader.snapshot?

end LinkedRaces
