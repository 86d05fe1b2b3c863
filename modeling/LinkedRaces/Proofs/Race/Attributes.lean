import LinkedRaces.Proofs.Race.Separation
import LinkedRaces.Proofs.Text.Trimming

/-!
Attributes do not disturb each other. Whatever is wrong with one, an entity is mapped as if that one
were missing; and where an attribute is dropped, its own triples are gone and the others stay where
they were.
-/

namespace LinkedRaces

open Number (Binary binary64)

def clearText (value : Option String) : Option String := value.filter fun s => !Text.isBlankText s

def clearDistance (value : Option Binary) : Option Binary :=
  value.filter fun x => x.isFinite binary64 && decide (0 ≤ x.rank)

def clearAddress (value : Option String) : Option String :=
  value.filter fun s => Text.occursIn "://".toList s.toList

def clearPlace (value : Option Nat) : Option Nat := value.filter (· != 0)

def clearLabels (labels : List String) : List String := labels.filter fun s => !Text.isBlankText s

def Event.cleared (e : Event) : Event where
  id := e.id
  title := clearText e.title
  date := clearText e.date
  endDate := clearText e.endDate
  location := clearText e.location
  distanceKm := clearDistance e.distanceKm
  url := clearAddress e.url
  description := clearText e.description
  eventTypes := clearLabels e.eventTypes
  divisions := clearLabels e.divisions

def Athlete.cleared (a : Athlete) : Athlete where
  id := a.id
  givenName := clearText a.givenName
  familyName := clearText a.familyName
  gender := clearText a.gender
  birthYear := a.birthYear
  country := clearText a.country
  clubs := clearLabels a.clubs

def RaceResult.cleared (r : RaceResult) : RaceResult where
  id := r.id
  eventId := r.eventId
  athleteId := r.athleteId
  timeSeconds := r.timeSeconds
  place := clearPlace r.place
  division := clearText r.division
  age := r.age
  bib := clearText r.bib

def Snapshot.cleared (s : Snapshot) : Snapshot where
  events := s.events.map Event.cleared
  athletes := s.athletes.map Athlete.cleared
  results := s.results.map RaceResult.cleared

namespace Mapping

variable {base : String} {s p labelled : Iri}

@[simp] theorem trimmed?_clearText (value : Option String) :
    trimmed? (clearText value) = trimmed? value := by
  cases value with
  | none => rfl
  | some s =>
    by_cases hs : Text.isBlankText s <;>
      simp [trimmed?, clearText, Option.filter, Text.trim_eq_empty_iff, hs]

@[simp] theorem plain?_clearText (value : Option String) :
    plain? (clearText value) = plain? value := by
  rw [plain?, trimmed?_clearText, plain?]

@[simp] theorem date?_clearText (value : Option String) :
    date? (clearText value) = date? value := by
  rw [date?, trimmed?_clearText, date?]

def sound? (attr : Attribute) : Option Term :=
  match attr with
  | .ok value => value
  | .error _ => none

theorem checked_eq_fact (s p : Iri) (attr : Attribute) :
    checked s p attr = fact s p (sound? attr) := by
  cases attr <;> rfl

theorem title_clearText (value : Option String) :
    title (clearText value) = .ok (sound? (title value)) := by
  cases value with
  | none => rfl
  | some s =>
    by_cases hs : Text.isBlankText s <;>
      simp [title, clearText, sound?, Option.filter, Text.trim_eq_empty_iff, hs]

theorem distance_clearDistance (value : Option Binary) :
    distance (clearDistance value) = .ok (sound? (distance value)) := by
  cases value with
  | none => rfl
  | some x =>
    have hsign : (x.negative && !x.isZero) = !decide (0 ≤ x.rank) := by
      cases hnegative : x.negative <;> simp [Binary.rank, Binary.isZero, hnegative, beq_eq_decide]
    by_cases hx : x.isFinite binary64 && decide (0 ≤ x.rank) <;>
      grind [distance, clearDistance, sound?, Option.filter]

theorem address_clearAddress (value : Option String) :
    address (clearAddress value) = .ok (sound? (address value)) := by
  cases value with
  | none => rfl
  | some s =>
    have htrim : Text.occursIn "://".toList (Text.trim s).toList =
        Text.occursIn "://".toList s.toList := Text.occursIn_trim (by decide) (by decide) s
    have hblank : Text.occursIn "://".toList s.toList → Text.trim s ≠ "" := by
      intro h hempty
      rw [← htrim, hempty] at h
      simp [Text.occursIn] at h
    by_cases hs : Text.occursIn "://".toList s.toList <;>
      grind [address, trimmed?, clearAddress, sound?, Option.filter]

theorem place_clearPlace (value : Option Nat) :
    place (clearPlace value) = .ok (sound? (place value)) := by
  match value with
  | none | some 0 | some (n + 1) => rfl

theorem concepts_cons (base kind : String) (s p labelled : Iri) (label : String)
    (labels : List String) :
    concepts base kind s p labelled (label :: labels) =
      (if Text.isBlankText label then []
        else
          let concept := conceptIri base kind (Text.trim label)
          [⟨s, p, .iri concept⟩, ⟨concept, labelled, .literal (.plain (Text.trim label))⟩]) ++
        concepts base kind s p labelled labels := by
  simp only [concepts, List.map_cons, List.flatMap_cons, String.isEmpty_iff, Text.trim_eq_empty_iff]

theorem concepts_clearLabels (base kind : String) (s p labelled : Iri) (labels : List String) :
    concepts base kind s p labelled (clearLabels labels) =
      concepts base kind s p labelled labels := by
  induction labels with
  | nil => rfl
  | cons label labels ih =>
    rw [concepts_cons, ← ih, clearLabels, List.filter_cons]
    by_cases hlabel : Text.isBlankText label <;> simp [hlabel, concepts_cons, clearLabels]

theorem event_cleared (base : String) (e : Event) : event base e.cleared = event base e := by
  simp only [event, Event.cleared, checked_eq_fact, title_clearText, distance_clearDistance,
    address_clearAddress, date?_clearText, plain?_clearText, concepts_clearLabels, sound?]

theorem athlete_cleared (base : String) (a : Athlete) :
    athlete base a.cleared = athlete base a := by
  simp only [athlete, Athlete.cleared, fullName?, trimmed?_clearText, plain?_clearText,
    concepts_clearLabels]

theorem result_cleared (base : String) (r : RaceResult) :
    result base r.cleared = result base r := by
  simp only [result, RaceResult.cleared, checked_eq_fact, place_clearPlace, plain?_clearText,
    sound?]

theorem snapshot_cleared (base : String) (s : Snapshot) :
    snapshot base s.cleared = snapshot base s := by
  simp only [snapshot, Snapshot.cleared, List.flatMap_map, event_cleared, athlete_cleared,
    result_cleared]

end Mapping

inductive Event.Field
  | title
  | date
  | endDate
  | location
  | distanceKm
  | url
  | description
  | eventTypes
  | divisions

inductive Athlete.Field
  | givenName
  | familyName
  | gender
  | birthYear
  | country
  | clubs

inductive RaceResult.Field
  | eventId
  | athleteId
  | timeSeconds
  | place
  | division
  | age
  | bib

def Event.without (e : Event) : Event.Field → Event
  | .title => { e with title := none }
  | .date => { e with date := none }
  | .endDate => { e with endDate := none }
  | .location => { e with location := none }
  | .distanceKm => { e with distanceKm := none }
  | .url => { e with url := none }
  | .description => { e with description := none }
  | .eventTypes => { e with eventTypes := [] }
  | .divisions => { e with divisions := [] }

def Athlete.without (a : Athlete) : Athlete.Field → Athlete
  | .givenName => { a with givenName := none }
  | .familyName => { a with familyName := none }
  | .gender => { a with gender := none }
  | .birthYear => { a with birthYear := none }
  | .country => { a with country := none }
  | .clubs => { a with clubs := [] }

def RaceResult.without (r : RaceResult) : RaceResult.Field → RaceResult
  | .eventId => { r with eventId := none }
  | .athleteId => { r with athleteId := none }
  | .timeSeconds => { r with timeSeconds := none }
  | .place => { r with place := none }
  | .division => { r with division := none }
  | .age => { r with age := none }
  | .bib => { r with bib := none }

namespace Mapping

open Vocabulary

@[simp] theorem schemaName_inj {name name' : String} :
    schemaName name = schemaName name' ↔ name = name' := by
  simp [schemaName, ← String.toList_inj]

@[simp] theorem raceName_inj {name name' : String} :
    raceName name = raceName name' ↔ name = name' := by
  simp [raceName, ← String.toList_inj]

@[simp] theorem schemaName_ne_raceName (name name' : String) :
    schemaName name ≠ raceName name' := by
  intro heq
  have hstart := congrArg (fun i : Iri => i.text.toList.take 8) heq
  simp [schemaName, raceName, schema, race] at hstart

@[simp] theorem raceName_ne_schemaName (name name' : String) :
    raceName name ≠ schemaName name' :=
  (schemaName_ne_raceName name' name).symm

@[simp] theorem rdfType_ne_schemaName (name : String) : rdfType ≠ schemaName name :=
  (schemaName_ne_rdfType name).symm

@[simp] theorem rdfType_ne_raceName (name : String) : rdfType ≠ raceName name :=
  (raceName_ne_rdfType name).symm

/-- Where the triples of an attribute are: what the entity says with some predicates, and what is
said about the concepts of a kind. It never holds the classes of an entity. -/
structure Footprint where
  predicates : List Iri
  kind : Option String := none
  detail : rdfType ∉ predicates := by simp
  known : ∀ k ∈ kind, k ∈ conceptKinds := by simp [conceptKinds]

namespace Footprint

def ofKind (base kind : String) (i : Iri) : Bool :=
  (base ++ kind ++ "/").toList.isPrefixOf i.text.toList

def covers (fp : Footprint) (base : String) (s : Iri) (t : Triple) : Bool :=
  (t.subject == s && fp.predicates.contains t.predicate) || fp.kind.any (ofKind base · t.subject)

def remove (fp : Footprint) (base : String) (s : Iri) (ts : List Triple) : List Triple :=
  ts.filter (!fp.covers base s ·)

end Footprint

end Mapping

open Mapping Vocabulary

def Event.Field.footprint : Event.Field → Footprint
  | .title => { predicates := [schemaName "name"] }
  | .date => { predicates := [schemaName "startDate"] }
  | .endDate => { predicates := [schemaName "endDate"] }
  | .location => { predicates := [schemaName "location"] }
  | .distanceKm => { predicates := [raceName "distanceKm"] }
  | .url => { predicates := [schemaName "url"] }
  | .description => { predicates := [schemaName "description"] }
  | .eventTypes => { predicates := [raceName "eventType"], kind := some "event-types" }
  | .divisions => { predicates := [raceName "division"], kind := some "divisions" }

/-- The names are also part of the full name. -/
def Athlete.Field.footprint : Athlete.Field → Footprint
  | .givenName => { predicates := [schemaName "givenName", schemaName "name"] }
  | .familyName => { predicates := [schemaName "familyName", schemaName "name"] }
  | .gender => { predicates := [schemaName "gender"] }
  | .birthYear => { predicates := [raceName "birthYear"] }
  | .country => { predicates := [schemaName "nationality"] }
  | .clubs => { predicates := [schemaName "memberOf"], kind := some "clubs" }

/-- A time is also given as a duration. -/
def RaceResult.Field.footprint : RaceResult.Field → Footprint
  | .eventId => { predicates := [raceName "event"] }
  | .athleteId => { predicates := [raceName "athlete"] }
  | .timeSeconds => { predicates := [raceName "timeSeconds", raceName "time"] }
  | .place => { predicates := [raceName "place"] }
  | .division => { predicates := [raceName "division"] }
  | .age => { predicates := [raceName "age"] }
  | .bib => { predicates := [raceName "bib"] }

namespace Mapping

variable {base : String} {s p labelled : Iri} {fp : Footprint}

theorem slash_not_mem_of_kind : ∀ kind ∈ conceptKinds, '/' ∉ kind.toList := by decide

namespace Footprint

theorem ofKind_path {kind part rest : String} (hkind : kind ∈ conceptKinds)
    (hpart : '/' ∉ part.toList) :
    ofKind base kind ⟨base ++ part ++ "/" ++ rest⟩ ↔ kind = part := by
  rw [ofKind, List.isPrefixOf_iff_prefix]
  constructor
  · rintro ⟨us, h⟩
    have hpath : base ++ kind ++ "/" ++ String.ofList us = base ++ part ++ "/" ++ rest := by
      rw [← String.toList_inj, ← h]
      simp
    exact ((path_inj (slash_not_mem_of_kind kind hkind) hpart).1 hpath).1
  · rintro rfl
    exact ⟨rest.toList, by simp⟩

theorem ofKind_conceptIri {kind kind' : String} (hkind : kind ∈ conceptKinds)
    (hkind' : kind' ∈ conceptKinds) (label : String) :
    ofKind base kind (conceptIri base kind' label) ↔ kind = kind' :=
  ofKind_path hkind (slash_not_mem_of_kind kind' hkind')

def Apart (base : String) (s : Iri) : Prop := ∀ kind ∈ conceptKinds, ofKind base kind s = false

theorem apart_iri (base : String) (x : Entity) : Apart base (x.iri base) := by
  intro kind hkind
  have hcollections : ∀ kind ∈ conceptKinds,
      kind ≠ "events" ∧ kind ≠ "athletes" ∧ kind ≠ "results" := by
    decide
  obtain ⟨hevents, hathletes, hresults⟩ := hcollections kind hkind
  rw [Bool.eq_false_iff, Entity.iri, entityIri, Ne]
  cases x with
  | event e => rwa [Entity.collection, ofKind_path hkind (by decide)]
  | athlete a => rwa [Entity.collection, ofKind_path hkind (by decide)]
  | result r => rwa [Entity.collection, ofKind_path hkind (by decide)]

theorem covers_self (hs : Apart base s) (p : Iri) (o : Term) :
    fp.covers base s ⟨s, p, o⟩ = decide (p ∈ fp.predicates) := by
  have hkind : fp.kind.any (ofKind base · s) = false := by
    match hk : fp.kind with
    | none => rfl
    | some kind => exact hs kind (fp.known kind hk)
  simp [covers, hkind]

theorem covers_concept (hs : Apart base s) {kind : String} (hkind : kind ∈ conceptKinds)
    (label : String) (o : Term) :
    fp.covers base s ⟨conceptIri base kind label, labelled, o⟩ =
      decide (fp.kind = some kind) := by
  have hself : ofKind base kind (conceptIri base kind label) :=
    (ofKind_conceptIri hkind hkind _).2 rfl
  have hne : conceptIri base kind label ≠ s := by
    rintro rfl
    simp [hs kind hkind] at hself
  match hk : fp.kind with
  | none => simp [covers, hne, hk]
  | some kind' =>
    have hother : ofKind base kind' (conceptIri base kind label) ↔ kind' = kind :=
      ofKind_conceptIri (fp.known kind' hk) hkind label
    rw [covers, hk, Bool.eq_iff_iff]
    simp [hne, hother]

theorem remove_append (ts us : List Triple) :
    fp.remove base s (ts ++ us) = fp.remove base s ts ++ fp.remove base s us :=
  List.filter_append ..

theorem remove_fact (hs : Apart base s) (p : Iri) (value : Option Term) :
    fp.remove base s (fact s p value) = if p ∈ fp.predicates then [] else fact s p value := by
  cases value with
  | none => simp [remove, fact]
  | some o => by_cases hp : p ∈ fp.predicates <;> simp [remove, fact, covers_self hs, hp]

theorem remove_checked (hs : Apart base s) (p : Iri) (attr : Attribute) :
    fp.remove base s (checked s p attr) = if p ∈ fp.predicates then [] else checked s p attr := by
  rw [checked_eq_fact, remove_fact hs]

theorem remove_isA (hs : Apart base s) (cls : Iri) (ts : List Triple) :
    fp.remove base s (isA s cls :: ts) = isA s cls :: fp.remove base s ts := by
  simp [remove, isA, covers_self hs, fp.detail]

theorem remove_concepts (hs : Apart base s) {kind : String} (hkind : kind ∈ conceptKinds)
    (hlinks : p ∈ fp.predicates ↔ fp.kind = some kind) (labels : List String) :
    fp.remove base s (concepts base kind s p labelled labels) =
      if p ∈ fp.predicates then [] else concepts base kind s p labelled labels := by
  have hcovers : ∀ t ∈ concepts base kind s p labelled labels,
      fp.covers base s t = decide (p ∈ fp.predicates) := by
    intro t ht
    obtain ⟨label, -, ht⟩ := List.mem_flatMap.1 ht
    split at ht
    · cases ht
    · simp only [List.mem_cons, List.not_mem_nil, or_false] at ht
      rcases ht with rfl | rfl
      · exact covers_self hs p _
      · simp only [covers_concept hs hkind, hlinks]
  by_cases hp : p ∈ fp.predicates
  · rw [if_pos hp, remove, List.filter_eq_nil_iff]
    exact fun t ht => by simp [hcovers t ht, hp]
  · rw [if_neg hp, remove, List.filter_eq_self]
    exact fun t ht => by simp [hcovers t ht, hp]

end Footprint

open Footprint

@[simp] theorem fact_none (s p : Iri) : fact s p none = [] := rfl

@[simp] theorem checked_none (s p : Iri) : checked s p (.ok none) = [] := rfl

@[simp] theorem checked_error (s p : Iri) (fault : AttributeFault) :
    checked s p (.error fault) = [] := rfl

@[simp] theorem concepts_nil (base kind : String) (s p labelled : Iri) :
    concepts base kind s p labelled [] = [] := rfl

@[simp] theorem trimmed?_none : trimmed? none = none := rfl

@[simp] theorem plain?_none : plain? none = none := rfl

@[simp] theorem date?_none : date? none = none := rfl

@[simp] theorem natural?_none (datatype : Iri) : natural? none datatype = none := rfl

@[simp] theorem title_none : title none = .ok none := rfl

@[simp] theorem distance_none : distance none = .ok none := rfl

@[simp] theorem address_none : address none = .ok none := rfl

@[simp] theorem place_none : place none = .ok none := rfl

@[simp] theorem link_none (iri : Nat → Iri) : link iri none = .error .missing := rfl

theorem remove_event (base : String) (e : Event) (f : Event.Field) :
    f.footprint.remove base (eventIri base e.id) (event base e) = event base (e.without f) := by
  have hs : Apart base (eventIri base e.id) := apart_iri base (.event e)
  have htypes : raceName "eventType" ∈ f.footprint.predicates ↔
      f.footprint.kind = some "event-types" := by
    cases f <;> simp [Event.Field.footprint]
  have hdivisions : raceName "division" ∈ f.footprint.predicates ↔
      f.footprint.kind = some "divisions" := by
    cases f <;> simp [Event.Field.footprint]
  simp only [event, List.cons_append, List.nil_append, remove_append, remove_isA hs,
    remove_fact hs, remove_checked hs, remove_concepts hs (by decide) htypes,
    remove_concepts hs (by decide) hdivisions]
  -- the predicates are distinct, so one attribute is gone and is `none` on the other side
  cases f <;> simp [Event.Field.footprint, Event.without]

theorem remove_athlete (base : String) (a : Athlete) (f : Athlete.Field) :
    f.footprint.remove base (athleteIri base a.id) (athlete base a) =
      athlete base (a.without f) := by
  have hs : Apart base (athleteIri base a.id) := apart_iri base (.athlete a)
  have hclubs : schemaName "memberOf" ∈ f.footprint.predicates ↔
      f.footprint.kind = some "clubs" := by
    cases f <;> simp [Athlete.Field.footprint]
  simp only [athlete, List.cons_append, List.nil_append, remove_append, remove_isA hs,
    remove_fact hs, remove_concepts hs (by decide) hclubs]
  cases f <;> simp [Athlete.Field.footprint, Athlete.without, fullName?]

theorem remove_result (base : String) (r : RaceResult) (f : RaceResult.Field) :
    f.footprint.remove base (resultIri base r.id) (result base r) =
      result base (r.without f) := by
  have hs : Apart base (resultIri base r.id) := apart_iri base (.result r)
  simp only [result, List.cons_append, List.nil_append, remove_append, remove_isA hs,
    remove_fact hs, remove_checked hs]
  cases f <;> simp [RaceResult.Field.footprint, RaceResult.without]

/-- A malformed attribute changes nothing but that its own triples are missing. Entities that differ
in one attribute are mapped alike, and in the same order, apart from the triples of that attribute:
without them, both are mapped as if the attribute were missing. -/
theorem attributes_independent (base : String) :
    (∀ s : Snapshot, snapshot base s.cleared = snapshot base s) ∧
    (∀ (f : Event.Field) (e e' : Event), e.without f = e'.without f →
      f.footprint.remove base (eventIri base e.id) (event base e) =
          f.footprint.remove base (eventIri base e'.id) (event base e') ∧
        f.footprint.remove base (eventIri base e.id) (event base e) =
          event base (e.without f)) ∧
    (∀ (f : Athlete.Field) (a a' : Athlete), a.without f = a'.without f →
      f.footprint.remove base (athleteIri base a.id) (athlete base a) =
          f.footprint.remove base (athleteIri base a'.id) (athlete base a') ∧
        f.footprint.remove base (athleteIri base a.id) (athlete base a) =
          athlete base (a.without f)) ∧
    (∀ (f : RaceResult.Field) (r r' : RaceResult), r.without f = r'.without f →
      f.footprint.remove base (resultIri base r.id) (result base r) =
          f.footprint.remove base (resultIri base r'.id) (result base r') ∧
        f.footprint.remove base (resultIri base r.id) (result base r) =
          result base (r.without f)) := by
  refine ⟨snapshot_cleared base, fun f e e' h => ?_, fun f a a' h => ?_, fun f r r' h => ?_⟩
  · rw [remove_event, remove_event, h]
    exact ⟨rfl, rfl⟩
  · rw [remove_athlete, remove_athlete, h]
    exact ⟨rfl, rfl⟩
  · rw [remove_result, remove_result, h]
    exact ⟨rfl, rfl⟩

def springRun : Event :=
  { (default : Event) with
    id := 7
    title := some "Spring 5K"
    url := some "spring.example"
    eventTypes := [" ", "Road"] }

def annLee : Athlete :=
  { (default : Athlete) with id := 3, givenName := some "Ann", familyName := some " Lee " }

def unplaced : RaceResult :=
  { (default : RaceResult) with
    id := 4
    eventId := some 7
    timeSeconds := some 61
    place := some 0 }

theorem attributes_independent_race :
    let run : Iri := ⟨"http://e/events/7"⟩
    let ann : Iri := ⟨"http://e/athletes/3"⟩
    let done : Iri := ⟨"http://e/results/4"⟩
    snapshot "http://e/" (Snapshot.cleared ⟨[springRun], [annLee], [unplaced]⟩) =
        snapshot "http://e/" ⟨[springRun], [annLee], [unplaced]⟩ ∧
      Event.Field.url.footprint.remove "http://e/" run
          (event "http://e/" { springRun with url := some "https://spring.example" }) =
        [isA run (schemaName "Event"), isA run (schemaName "SportsEvent"),
          ⟨run, schemaName "name", .literal (.plain "Spring 5K")⟩,
          ⟨run, raceName "eventType", .iri ⟨"http://e/event-types/road"⟩⟩,
          ⟨⟨"http://e/event-types/road"⟩, skosName "prefLabel", .literal (.plain "Road")⟩] ∧
      Athlete.Field.givenName.footprint.remove "http://e/" ann
          (athlete "http://e/" { annLee with givenName := none }) =
        [isA ann (schemaName "Person"),
          ⟨ann, schemaName "familyName", .literal (.plain "Lee")⟩] ∧
      RaceResult.Field.timeSeconds.footprint.remove "http://e/" done
          (result "http://e/" { unplaced with timeSeconds := some 3600 }) =
        [isA done (raceName "RaceResult"), ⟨done, raceName "event", .iri run⟩] := by
  intro run ann done
  obtain ⟨hcleared, hevents, hathletes, hresults⟩ := attributes_independent "http://e/"
  obtain ⟨hrun, hrun'⟩ :=
    hevents .url springRun { springRun with url := some "https://spring.example" } rfl
  obtain ⟨hann, hann'⟩ := hathletes .givenName annLee { annLee with givenName := none } rfl
  obtain ⟨hdone, hdone'⟩ :=
    hresults .timeSeconds unplaced { unplaced with timeSeconds := some 3600 } rfl
  refine ⟨hcleared _, hrun.symm.trans (hrun'.trans ?_), hann.symm.trans (hann'.trans ?_),
    hdone.symm.trans (hdone'.trans ?_)⟩
  · decide +kernel
  · decide +kernel
  · decide +kernel

end Mapping

end LinkedRaces
