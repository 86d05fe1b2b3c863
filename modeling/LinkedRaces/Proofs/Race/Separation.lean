import LinkedRaces.Proofs.Query.Graphs
import LinkedRaces.Proofs.Query.Pattern
import LinkedRaces.Race.Mapping
import Mathlib

/-!
Entities stay apart in a mapped store. The IRI of an entity says its collection and its number, and
no concept has such an IRI, whatever its label; only the entity itself states a class of it, and only
its own mapping says anything about it.
-/

namespace LinkedRaces

inductive Entity
  | event (e : Event)
  | athlete (a : Athlete)
  | result (r : RaceResult)

namespace Snapshot

def entities (s : Snapshot) : List Entity :=
  s.events.map .event ++ s.athletes.map .athlete ++ s.results.map .result

structure Numbered (s : Snapshot) : Prop where
  events : (s.events.map Event.id).Nodup
  athletes : (s.athletes.map Athlete.id).Nodup
  results : (s.results.map RaceResult.id).Nodup

end Snapshot

namespace Mapping

open Vocabulary

variable {base : String}

theorem append_slash_inj {cs ds us vs : List Char} (hcs : '/' ∉ cs) (hds : '/' ∉ ds) :
    cs ++ '/' :: us = ds ++ '/' :: vs ↔ cs = ds ∧ us = vs := by
  have htake {cs : List Char} (h : '/' ∉ cs) (us : List Char) :
      (cs ++ '/' :: us).takeWhile (· != '/') = cs := by
    rw [List.takeWhile_append_of_pos fun c hc => by simpa using ne_of_mem_of_not_mem hc h]
    simp
  refine ⟨fun h => ?_, by rintro ⟨rfl, rfl⟩; rfl⟩
  obtain rfl : cs = ds := by rw [← htake hcs us, h, htake hds]
  simpa using h

theorem path_inj {part part' rest rest' : String} (h : '/' ∉ part.toList)
    (h' : '/' ∉ part'.toList) :
    base ++ part ++ "/" ++ rest = base ++ part' ++ "/" ++ rest' ↔ part = part' ∧ rest = rest' := by
  have hslash (s t : String) :
      (base ++ s ++ "/" ++ t).toList = base.toList ++ (s.toList ++ '/' :: t.toList) := by
    simp
  rw [← String.toList_inj, hslash, hslash, List.append_cancel_left_eq, append_slash_inj h h',
    String.toList_inj, String.toList_inj]

theorem entityIri_inj {collection collection' : String} (h : '/' ∉ collection.toList)
    (h' : '/' ∉ collection'.toList) {id id' : Nat} :
    entityIri base collection id = entityIri base collection' id' ↔
      collection = collection' ∧ id = id' := by
  rw [entityIri, entityIri, Iri.mk.injEq, path_inj h h']
  exact and_congr_right fun _ => Nat.repr_inj

theorem entityIri_ne {collection collection' : String} (h : '/' ∉ collection.toList)
    (h' : '/' ∉ collection'.toList) (hne : collection ≠ collection') (id id' : Nat) :
    entityIri base collection id ≠ entityIri base collection' id' :=
  fun heq => hne ((entityIri_inj h h').1 heq).1

theorem entityIri_ne_conceptIri {collection kind : String} (h : '/' ∉ collection.toList)
    (h' : '/' ∉ kind.toList) (hne : collection ≠ kind) (id : Nat) (label : String) :
    entityIri base collection id ≠ conceptIri base kind label := by
  rw [entityIri, conceptIri, Ne, Iri.mk.injEq, path_inj h h']
  exact fun heq => hne heq.1

theorem ne_rdfType {ns : String} (hlength : 8 ≤ ns.toList.length)
    (h : ns.toList.take 8 ≠ rdf.toList.take 8) (name : String) : (⟨ns ++ name⟩ : Iri) ≠ rdfType := by
  intro heq
  have hstart := congrArg (fun i : Iri => i.text.toList.take 8) heq
  simp only [rdfType, String.toList_append, List.take_append_of_le_length hlength] at hstart
  exact h hstart

theorem schemaName_ne_rdfType : ∀ name, schemaName name ≠ rdfType :=
  ne_rdfType (by decide) (by decide)

theorem raceName_ne_rdfType : ∀ name, raceName name ≠ rdfType := ne_rdfType (by decide) (by decide)

def conceptKinds : List String := ["event-types", "divisions", "clubs"]

/-- The triple states no class, and it is about the entity or about a concept. -/
structure Detail (base : String) (s : Iri) (t : Triple) : Prop where
  predicate : t.predicate ≠ rdfType
  subject : t.subject = s ∨ ∃ kind ∈ conceptKinds, ∃ label, t.subject = conceptIri base kind label

variable {s p labelled : Iri}

theorem detail_fact (hp : p ≠ rdfType) (value : Option Term) :
    ∀ t ∈ fact s p value, Detail base s t := by
  cases value with
  | none => nofun
  | some o =>
    intro t ht
    obtain rfl := List.mem_singleton.1 ht
    exact ⟨hp, .inl rfl⟩

theorem detail_checked (hp : p ≠ rdfType) (attr : Attribute) :
    ∀ t ∈ checked s p attr, Detail base s t := by
  cases attr with
  | error e => nofun
  | ok value => exact detail_fact hp value

theorem detail_concepts {kind : String} (hkind : kind ∈ conceptKinds) (hp : p ≠ rdfType)
    (hlabelled : labelled ≠ rdfType) (labels : List String) :
    ∀ t ∈ concepts base kind s p labelled labels, Detail base s t := by
  intro t ht
  obtain ⟨label, -, ht⟩ := List.mem_flatMap.1 ht
  split at ht
  · cases ht
  · simp only [List.mem_cons, List.not_mem_nil, or_false] at ht
    rcases ht with rfl | rfl
    · exact ⟨hp, .inl rfl⟩
    · exact ⟨hlabelled, .inr ⟨kind, hkind, label, rfl⟩⟩

end Mapping

namespace Entity

open Mapping Vocabulary

def collection : Entity → String
  | event _ => "events"
  | athlete _ => "athletes"
  | result _ => "results"

def id : Entity → Nat
  | event e => e.id
  | athlete a => a.id
  | result r => r.id

def iri (base : String) (x : Entity) : Iri := entityIri base x.collection x.id

@[simp] theorem iri_event (base : String) (e : Event) :
    (event e).iri base = eventIri base e.id := rfl

@[simp] theorem iri_athlete (base : String) (a : Athlete) :
    (athlete a).iri base = athleteIri base a.id := rfl

@[simp] theorem iri_result (base : String) (r : RaceResult) :
    (result r).iri base = resultIri base r.id := rfl

def triples (base : String) : Entity → List Triple
  | event e => Mapping.event base e
  | athlete a => Mapping.athlete base a
  | result r => Mapping.result base r

def classes : Entity → List Iri
  | event _ => [schemaName "Event", schemaName "SportsEvent"]
  | athlete _ => [schemaName "Person"]
  | result _ => [raceName "RaceResult"]

theorem nodup_classes (x : Entity) : x.classes.Nodup := by
  cases x with
  | event e =>
    have hdistinct : [schemaName "Event", schemaName "SportsEvent"].Nodup := by decide
    exact hdistinct
  | athlete a => exact List.nodup_singleton _
  | result r => exact List.nodup_singleton _

variable {base : String}

theorem exists_details (base : String) (x : Entity) :
    ∃ details, x.triples base = x.classes.map (isA (x.iri base)) ++ details ∧
      ∀ t ∈ details, Detail base (x.iri base) t := by
  cases x with
  | event e =>
    have hlabel : skosName "prefLabel" ≠ rdfType := by decide
    simp only [triples, Mapping.event, List.append_assoc]
    refine ⟨_, rfl, ?_⟩
    simp only [List.forall_mem_append]
    refine ⟨?name, ?start, ?finish, ?location, ?distance, ?url, ?description, ?types, ?divisions⟩
    case types => exact detail_concepts (by decide) (raceName_ne_rdfType _) hlabel _
    case divisions => exact detail_concepts (by decide) (raceName_ne_rdfType _) hlabel _
    case distance => exact detail_checked (raceName_ne_rdfType _) _
    case name => exact detail_checked (schemaName_ne_rdfType _) _
    case url => exact detail_checked (schemaName_ne_rdfType _) _
    all_goals exact detail_fact (schemaName_ne_rdfType _) _
  | athlete a =>
    simp only [triples, Mapping.athlete, List.append_assoc]
    refine ⟨_, rfl, ?_⟩
    simp only [List.forall_mem_append]
    refine ⟨?given, ?family, ?name, ?gender, ?birthYear, ?nationality, ?clubs⟩
    case birthYear => exact detail_fact (raceName_ne_rdfType _) _
    case clubs =>
      exact detail_concepts (by decide) (schemaName_ne_rdfType _) (schemaName_ne_rdfType _) _
    all_goals exact detail_fact (schemaName_ne_rdfType _) _
  | result r =>
    simp only [triples, Mapping.result, List.append_assoc]
    refine ⟨_, rfl, ?_⟩
    simp only [List.forall_mem_append]
    refine ⟨?ofEvent, ?ofAthlete, ?seconds, ?time, ?place, ?division, ?age, ?bib⟩
    case ofEvent => exact detail_checked (raceName_ne_rdfType _) _
    case ofAthlete => exact detail_checked (raceName_ne_rdfType _) _
    case place => exact detail_checked (raceName_ne_rdfType _) _
    all_goals exact detail_fact (raceName_ne_rdfType _) _

theorem iri_ne_conceptIri (x : Entity) {kind : String} (hkind : kind ∈ conceptKinds)
    (label : String) : x.iri base ≠ conceptIri base kind label := by
  have hkinds : ∀ kind ∈ conceptKinds,
      '/' ∉ kind.toList ∧ kind ≠ "events" ∧ kind ≠ "athletes" ∧ kind ≠ "results" := by
    decide
  obtain ⟨hslash, hevents, hathletes, hresults⟩ := hkinds kind hkind
  cases x with
  | event e => exact entityIri_ne_conceptIri (by decide) hslash hevents.symm _ _
  | athlete a => exact entityIri_ne_conceptIri (by decide) hslash hathletes.symm _ _
  | result r => exact entityIri_ne_conceptIri (by decide) hslash hresults.symm _ _

theorem filter_triples_of_ne {x y : Entity} (h : y.iri base ≠ x.iri base) :
    (y.triples base).filter (·.subject == x.iri base) = [] := by
  obtain ⟨details, htriples, hdetails⟩ := y.exists_details base
  have hsubject : ∀ t ∈ y.triples base, t.subject ≠ x.iri base := by
    rw [htriples]
    simp only [List.forall_mem_append, List.forall_mem_map]
    refine ⟨fun _ _ => h, fun t ht => ?_⟩
    -- the subject of a detail is that of the mapping itself or a concept, never another entity
    rcases (hdetails t ht).subject with hs | ⟨kind, hkind, label, hs⟩
    · exact hs ▸ h
    · exact hs ▸ (x.iri_ne_conceptIri hkind label).symm
  simpa [List.filter_eq_nil_iff] using hsubject

end Entity

theorem flatMap_of_nodup {α β κ : Type} {key : α → κ} {f : α → List β} {xs : List α}
    (hnodup : (xs.map key).Nodup) {x : α} (hx : x ∈ xs) (hf : ∀ y, key y ≠ key x → f y = []) :
    xs.flatMap f = f x := by
  induction xs with
  | nil => cases hx
  | cons y ys ih =>
    obtain ⟨hy, hys⟩ := List.nodup_cons.1 hnodup
    rw [List.flatMap_cons]
    rcases List.mem_cons.1 hx with rfl | hx
    · -- no later one has the key of the first
      have hrest : ys.flatMap f = [] :=
        List.flatMap_eq_nil_iff.2 fun z hz => hf z fun heq => hy (heq ▸ List.mem_map_of_mem hz)
      rw [hrest, List.append_nil]
    · have hne : key y ≠ key x := fun heq => hy (heq ▸ List.mem_map_of_mem hx)
      rw [hf y hne, List.nil_append, ih hys hx]

namespace Mapping

open Vocabulary

variable {base : String} {s : Snapshot}

theorem snapshot_eq_flatMap (base : String) (s : Snapshot) :
    snapshot base s = s.entities.flatMap (Entity.triples base) := by
  simp only [snapshot, Snapshot.entities, List.flatMap_append, List.flatMap_map]
  rfl

theorem nodup_entityIris {collection : String} (h : '/' ∉ collection.toList) {α : Type}
    {id : α → Nat} {xs : List α} (hids : (xs.map id).Nodup) :
    (xs.map fun x => entityIri base collection (id x)).Nodup := by
  have hinjective : Function.Injective (entityIri base collection) :=
    fun _ _ heq => ((entityIri_inj h h).1 heq).2
  have hiris := hids.map hinjective
  rwa [List.map_map] at hiris

theorem nodup_iris (h : s.Numbered) : (s.entities.map (Entity.iri base)).Nodup := by
  simp only [Snapshot.entities, List.map_append, List.map_map, Function.comp_def, Entity.iri_event,
    Entity.iri_athlete, Entity.iri_result]
  refine List.nodup_append.2 ⟨List.nodup_append.2 ⟨?events, ?athletes, ?people⟩, ?results, ?rest⟩
  case events => exact nodup_entityIris (by decide) h.events
  case athletes => exact nodup_entityIris (by decide) h.athletes
  case results => exact nodup_entityIris (by decide) h.results
  case people =>
    simp only [List.forall_mem_map]
    exact fun e _ a _ => entityIri_ne (by decide) (by decide) (by decide) e.id a.id
  case rest =>
    simp only [List.forall_mem_append, List.forall_mem_map]
    exact ⟨fun e _ r _ => entityIri_ne (by decide) (by decide) (by decide) e.id r.id,
      fun a _ r _ => entityIri_ne (by decide) (by decide) (by decide) a.id r.id⟩

theorem about_entity (h : s.Numbered) {x : Entity} (hx : x ∈ s.entities) :
    (Store.mk (snapshot base s)).about (x.iri base) =
      (x.triples base).filter (·.subject == x.iri base) := by
  rw [Store.about, snapshot_eq_flatMap, List.filter_flatMap]
  exact flatMap_of_nodup (nodup_iris h) hx fun y hy => Entity.filter_triples_of_ne hy

def instances (v : String) (cls : Iri) : Group := ⟨[⟨.var v, .iri rdfType, .iri cls⟩], [], []⟩

def instanceRow (v : String) (i : Iri) : Binding := Dictionary.ofList [(v, .iri i)]

example : (Query.parse "SELECT ?s WHERE { ?s a schema:SportsEvent }").map Query.group =
    .ok (instances "s" (schemaName "SportsEvent")) := by
  decide +kernel

def instance? (v : String) (cls : Iri) (t : Triple) : Option Binding :=
  if t.predicate = rdfType ∧ t.object = .iri cls then some (instanceRow v t.subject) else none

theorem matchTriple?_instances (v : String) (cls : Iri) (t : Triple) :
    (TriplePattern.mk (.var v) (.iri rdfType) (.iri cls)).matchTriple? t .empty =
      instance? v cls t := by
  have hsubject : (Term.var v).matchValue? (.iri t.subject) .empty =
      some (instanceRow v t.subject) := rfl
  have hconst (i : Iri) (value : Term) (row : Binding) :
      (Term.iri i).matchValue? value row = if value = .iri i then some row else none := by
    rw [Term.matchValue?_const rfl]
    exact if_congr eq_comm rfl rfl
  simp only [TriplePattern.matchTriple?, hsubject, hconst, bind, Option.bind_some, instance?,
    Term.iri.injEq]
  by_cases hp : t.predicate = rdfType <;> simp [hp]

theorem solve_instances (s : Store) (v : String) (cls : Iri) :
    s.solve (instances v cls) = s.triples.filterMap (instance? v cls) := by
  rw [Store.solve_of_isPlain s (g := instances v cls) rfl]
  calc s.joinAll (instances v cls).required [.empty]
      = s.extend ⟨.var v, .iri rdfType, .iri cls⟩ .empty := by
        rw [instances, Store.joinAll_cons, Store.joinAll, Store.join, List.flatMap_singleton]
    _ = s.triples.filterMap (instance? v cls) :=
      List.filterMap_congr fun t _ => matchTriple?_instances v cls t

theorem filterMap_ite_of_nodup {α β : Type} [DecidableEq α] {xs : List α} (h : xs.Nodup) (a : α)
    (b : β) : xs.filterMap (fun x => if x = a then some b else none) =
      (if a ∈ xs then some b else none).toList := by
  induction xs with
  | nil => rfl
  | cons x xs ih =>
    obtain ⟨hx, hxs⟩ := List.nodup_cons.1 h
    by_cases hxa : x = a
    · subst hxa
      simp [ih hxs, hx]
    · simp [hxa, Ne.symm hxa, ih hxs]

theorem filterMap_instance? (v : String) (cls : Iri) (x : Entity) :
    (x.triples base).filterMap (instance? v cls) =
      (if cls ∈ x.classes then some (instanceRow v (x.iri base)) else none).toList := by
  obtain ⟨details, htriples, hdetails⟩ := x.exists_details base
  -- what follows the classes states none, and the classes are distinct
  have hnone : details.filterMap (instance? v cls) = [] :=
    List.filterMap_eq_nil_iff.2 fun t ht => if_neg fun h => (hdetails t ht).predicate h.1
  rw [htriples, List.filterMap_append, hnone, List.append_nil, List.filterMap_map,
    ← filterMap_ite_of_nodup x.nodup_classes]
  exact List.filterMap_congr fun c _ => by simp [instance?, isA]

theorem solve_snapshot (s : Snapshot) (v : String) (cls : Iri) :
    (Store.mk (snapshot base s)).solve (instances v cls) = s.entities.filterMap fun x =>
      if cls ∈ x.classes then some (instanceRow v (x.iri base)) else none := by
  rw [solve_instances, snapshot_eq_flatMap, List.filterMap_flatMap,
    List.filterMap_eq_flatMap_toList]
  exact List.flatMap_congr fun x _ => filterMap_instance? v cls x

/-- Events, people and results are found by their classes, each once for each entity of the snapshot
and in its order. If numbers are not used twice in a collection, then all that a store says about
an entity is what the mapping of that entity says about it. -/
theorem entities_separate (base : String) (s : Snapshot) :
    (∀ v,
      (Store.mk (snapshot base s)).solve (instances v (schemaName "Event")) =
        s.events.map (fun e => instanceRow v (eventIri base e.id)) ∧
      (Store.mk (snapshot base s)).solve (instances v (schemaName "SportsEvent")) =
        s.events.map (fun e => instanceRow v (eventIri base e.id)) ∧
      (Store.mk (snapshot base s)).solve (instances v (schemaName "Person")) =
        s.athletes.map (fun a => instanceRow v (athleteIri base a.id)) ∧
      (Store.mk (snapshot base s)).solve (instances v (raceName "RaceResult")) =
        s.results.map (fun r => instanceRow v (resultIri base r.id))) ∧
    (s.Numbered →
      (∀ e ∈ s.events, (Store.mk (snapshot base s)).about (eventIri base e.id) =
        (event base e).filter (·.subject == eventIri base e.id)) ∧
      (∀ a ∈ s.athletes, (Store.mk (snapshot base s)).about (athleteIri base a.id) =
        (athlete base a).filter (·.subject == athleteIri base a.id)) ∧
      ∀ r ∈ s.results, (Store.mk (snapshot base s)).about (resultIri base r.id) =
        (result base r).filter (·.subject == resultIri base r.id)) := by
  have hevent : schemaName "Event" ≠ schemaName "Person" ∧ schemaName "Event" ≠ raceName "RaceResult" := by
    decide +kernel
  have hsports : schemaName "SportsEvent" ≠ schemaName "Person" ∧
      schemaName "SportsEvent" ≠ raceName "RaceResult" := by
    decide +kernel
  have hperson : schemaName "Person" ≠ raceName "RaceResult" := by decide +kernel
  refine ⟨fun v => ?_, fun h => ⟨fun e he => ?_, fun a ha => ?_, fun r hr => ?_⟩⟩
  · simp only [solve_snapshot, Snapshot.entities, List.filterMap_append, List.filterMap_map,
      Function.comp_def, Entity.classes]
    refine ⟨?_, ?_, ?_, ?_⟩
    · simp [hevent]
    · simp [hsports]
    · simp [hperson, hevent.1.symm, hsports.1.symm]
    · simp [hperson.symm, hevent.2.symm, hsports.2.symm]
  · exact about_entity h (x := .event e) (by simp [Snapshot.entities, he])
  · exact about_entity h (x := .athlete a) (by simp [Snapshot.entities, ha])
  · exact about_entity h (x := .result r) (by simp [Snapshot.entities, hr])

def meeting : Snapshot where
  events :=
    [{ (default : Event) with id := 1, title := some "Spring 5K", eventTypes := ["Events/1", "run"] },
      { (default : Event) with id := 12, title := some "Relay" }]
  athletes := [{ (default : Athlete) with id := 1, givenName := some "Ann", clubs := ["Athletes 1"] }]
  results := [{ (default : RaceResult) with id := 1, eventId := some 12, athleteId := some 1 }]

theorem entities_separate_meeting :
    let s := Store.mk (snapshot "http://e/" meeting)
    let ann : Iri := ⟨"http://e/athletes/1"⟩
    meeting.Numbered ∧
      s.solve (instances "s" (schemaName "SportsEvent")) =
        [instanceRow "s" ⟨"http://e/events/1"⟩, instanceRow "s" ⟨"http://e/events/12"⟩] ∧
      s.solve (instances "s" (raceName "RaceResult")) = [instanceRow "s" ⟨"http://e/results/1"⟩] ∧
      s.about ann =
        [isA ann (schemaName "Person"),
          ⟨ann, schemaName "givenName", .literal (.plain "Ann")⟩,
          ⟨ann, schemaName "memberOf", .iri ⟨"http://e/clubs/athletes-1"⟩⟩] := by
  intro s ann
  have hnumbered : meeting.Numbered := ⟨by decide, by decide, by decide⟩
  obtain ⟨hfound, habout⟩ := entities_separate "http://e/" meeting
  obtain ⟨-, hevents, -, hresults⟩ := hfound "s"
  have hann := (habout hnumbered).2.1 _ List.mem_cons_self
  refine ⟨hnumbered, hevents.trans ?_, hresults.trans ?_, hann.trans ?_⟩
  · decide +kernel
  · decide +kernel
  · decide +kernel

end Mapping

end LinkedRaces
