import LinkedRaces.Proofs.Race.Slug
import LinkedRaces.Proofs.Text.Trimming
import LinkedRaces.Race.Mapping

/-!
Which mapped triples can be written. Literals and the fixed names always can, and a minted IRI can
exactly if the base can: identifiers and slugs add nothing that is refused. The one IRI that is
taken from an entity as it stands is the web address of an event.
-/

namespace LinkedRaces

def Event.AddressWritable (e : Event) : Prop :=
  ∀ u, Mapping.trimmed? e.url = some u → Text.occursIn "://".toList u.toList → Writable u.toList

namespace Mapping

variable {base : String} {s p : Iri}

def Minted (base : String) (i : Iri) : Prop :=
  ∃ path, Writable path ∧ i.text.toList = base.toList ++ path

theorem Minted.check_iff {i : Iri} (h : Minted base i) (hcolon : ':' ∈ base.toList) :
    i.check = .ok () ↔ Writable base.toList := by
  obtain ⟨path, hpath, htext⟩ := h
  rw [Iri.check_iff_writable (by simp [htext, hcolon]), htext, writable_append]
  exact and_iff_left hpath

theorem writable_toDigits (n : Nat) : Writable (Nat.toDigits 10 n) := by
  intro c hc
  have hdigit : c.isDigit := Nat.isDigit_of_mem_toDigits (by decide) (by decide) hc
  have hascii : c.toNat < 128 := by
    simp only [Char.isDigit, Bool.and_eq_true, decide_eq_true_eq, UInt32.le_iff_toNat_le] at hdigit
    exact Nat.lt_of_le_of_lt hdigit.2 (by decide)
  exact Text.forall_ascii (P := fun c => c.isDigit → isUnwritable c = false) (by decide)
    hascii hdigit

theorem minted_entityIri {collection : String} (h : Writable collection.toList) (id : Nat) :
    Minted base (entityIri base collection id) := by
  refine ⟨collection.toList ++ '/' :: Nat.toDigits 10 id, ?_, by simp [entityIri]⟩
  simp [h, writable_toDigits, show isUnwritable '/' = false by decide]

theorem minted_conceptIri {kind : String} (h : Writable kind.toList) (label : String) :
    Minted base (conceptIri base kind label) := by
  refine ⟨kind.toList ++ '/' :: (slug label).toList, ?_, by simp [conceptIri]⟩
  simp [h, writable_slug, show isUnwritable '/' = false by decide]

theorem minted_eventIri (base : String) (id : Nat) : Minted base (eventIri base id) :=
  minted_entityIri (by decide) id

theorem minted_athleteIri (base : String) (id : Nat) : Minted base (athleteIri base id) :=
  minted_entityIri (by decide) id

theorem minted_resultIri (base : String) (id : Nat) : Minted base (resultIri base id) :=
  minted_entityIri (by decide) id

theorem writable_normalBase : Writable (normalBase base).toList ↔ Writable base.toList := by
  unfold normalBase
  split
  · rfl
  · rfl
  · simp [show isUnwritable '/' = false by decide]

theorem prefix_normalBase (base : String) : base.toList <+: (normalBase base).toList := by
  unfold normalBase
  split <;> simp

open Vocabulary

theorem check_rdfType : rdfType.check = .ok () := by rfl

theorem check_schemaName {name : String} (h : Writable name.toList) :
    (schemaName name).check = .ok () := by
  have hschema : Writable schema.toList := by decide
  exact (Iri.check_iff_writable (by simp [schemaName, schema])).2 (by simp [schemaName, hschema, h])

theorem check_raceName {name : String} (h : Writable name.toList) :
    (raceName name).check = .ok () := by
  have hrace : Writable race.toList := by decide
  exact (Iri.check_iff_writable (by simp [raceName, race])).2 (by simp [raceName, hrace, h])

theorem check_plain? {value : Option String} {o : Term} (h : plain? value = some o) :
    o.check = .ok () := by
  obtain ⟨_, -, rfl⟩ := Option.map_eq_some_iff.1 h
  rfl

theorem check_typed? {α : Type} {value : Option α} {text : α → String} {datatype : Iri}
    (hd : datatype.check = .ok ()) {o : Term}
    (h : (value.map fun x => Term.literal (.typed (text x) datatype)) = some o) :
    o.check = .ok () := by
  obtain ⟨_, -, rfl⟩ := Option.map_eq_some_iff.1 h
  exact hd

theorem check_fullName? {a : Athlete} {o : Term} (h : fullName? a = some o) :
    o.check = .ok () := by
  obtain ⟨_, -, h⟩ := Option.bind_eq_some_iff.1 h
  obtain ⟨_, -, h⟩ := Option.bind_eq_some_iff.1 h
  obtain rfl := Option.some.inj h
  rfl

theorem check_title {value : Option String} {o : Term} (h : title value = .ok (some o)) :
    o.check = .ok () := by
  cases value with
  | none => cases h
  | some s =>
    by_cases hempty : (Text.trim s).isEmpty
    · simp [title, hempty] at h
    · obtain rfl : .literal (.plain (Text.trim s)) = o := by simpa [title, hempty] using h
      rfl

theorem check_distance {value : Option Number.Binary} {o : Term}
    (h : distance value = .ok (some o)) : o.check = .ok () := by
  cases value with
  | none => cases h
  | some x =>
    unfold distance at h
    dsimp only at h
    split at h
    · cases h
    · obtain rfl := Option.some.inj (Except.ok.inj h)
      rfl

theorem check_place {value : Option Nat} {o : Term} (h : place value = .ok (some o)) :
    o.check = .ok () := by
  match value with
  | none | some 0 => cases h
  | some (n + 1) =>
    obtain rfl := Option.some.inj (Except.ok.inj h)
    rfl

theorem check_link {iri : Nat → Iri} (hiri : ∀ n, (iri n).check = .ok ()) {id : Option Nat}
    {o : Term} (h : link iri id = .ok (some o)) : o.check = .ok () := by
  cases id with
  | none => cases h
  | some n =>
    obtain rfl := Option.some.inj (Except.ok.inj h)
    exact hiri n

theorem address_eq_ok_iff {value : Option String} {o : Term} :
    address value = .ok (some o) ↔
      ∃ u, trimmed? value = some u ∧ Text.occursIn "://".toList u.toList ∧ o = .iri ⟨u⟩ := by
  cases h : trimmed? value <;> grind [address]

theorem check_address_iff {u : String} (h : Text.occursIn "://".toList u.toList) :
    (Term.iri ⟨u⟩).check = .ok () ↔ Writable u.toList :=
  Iri.check_iff_writable (Text.subset_of_occursIn h (by decide))

theorem check_fact (hs : s.check = .ok ()) (hp : p.check = .ok ()) {value : Option Term}
    (ho : ∀ o, value = some o → o.check = .ok ()) : ∀ t ∈ fact s p value, t.check = .ok () := by
  cases value with
  | none => nofun
  | some o => simpa [fact, Triple.check_eq_ok_iff, hs, hp] using ho o rfl

theorem check_checked (hs : s.check = .ok ()) (hp : p.check = .ok ()) {attr : Attribute}
    (ho : ∀ o, attr = .ok (some o) → o.check = .ok ()) :
    ∀ t ∈ checked s p attr, t.check = .ok () := by
  cases attr with
  | error e => nofun
  | ok value => exact check_fact hs hp fun o h => ho o (congrArg _ h)

theorem check_isA (hs : s.check = .ok ()) {cls : Iri} (hcls : cls.check = .ok ()) :
    (isA s cls).check = .ok () :=
  Triple.check_eq_ok_iff.2 ⟨hs, check_rdfType, hcls⟩

theorem Minted.writable_of_isA {cls : Iri} (h : Minted base s) (hcolon : ':' ∈ base.toList)
    (ht : (isA s cls).check = .ok ()) : Writable base.toList :=
  (h.check_iff hcolon).1 (Triple.check_eq_ok_iff.1 ht).1

theorem check_concepts {kind : String} {labelled : Iri} (hcolon : ':' ∈ base.toList)
    (hbase : Writable base.toList) (hkind : Writable kind.toList) (hs : s.check = .ok ())
    (hp : p.check = .ok ()) (hl : labelled.check = .ok ()) (labels : List String) :
    ∀ t ∈ concepts base kind s p labelled labels, t.check = .ok () := by
  intro t ht
  obtain ⟨label, -, ht⟩ := List.mem_flatMap.1 ht
  have hconcept := ((minted_conceptIri hkind label).check_iff hcolon).2 hbase
  split at ht
  · cases ht
  · simp only [List.mem_cons, List.not_mem_nil, or_false] at ht
    rcases ht with rfl | rfl
    · exact Triple.check_eq_ok_iff.2 ⟨hs, hp, hconcept⟩
    · exact Triple.check_eq_ok_iff.2 ⟨hconcept, hl, rfl⟩

theorem check_event_iff (hcolon : ':' ∈ base.toList) {e : Event} :
    (∀ t ∈ event base e, t.check = .ok ()) ↔ Writable base.toList ∧ e.AddressWritable := by
  have hminted := minted_eventIri base e.id
  constructor
  · intro h
    have hclass := h (isA (eventIri base e.id) (schemaName "Event")) (by simp [event])
    refine ⟨hminted.writable_of_isA hcolon hclass, fun u hu hoccurs => ?_⟩
    have haddress : address e.url = .ok (some (.iri ⟨u⟩)) :=
      address_eq_ok_iff.2 ⟨u, hu, hoccurs, rfl⟩
    have hurl := h ⟨eventIri base e.id, schemaName "url", .iri ⟨u⟩⟩
      (by simp [event, checked, fact, haddress])
    exact (check_address_iff hoccurs).1 (Triple.check_eq_ok_iff.1 hurl).2.2
  · rintro ⟨hbase, haddress⟩
    have hs := (hminted.check_iff hcolon).2 hbase
    have hlabel : (skosName "prefLabel").check = .ok () := by rfl
    simp only [event, List.forall_mem_append, and_assoc]
    refine ⟨?classes, ?name, ?start, ?finish, ?location, ?distance, ?url, ?description, ?types,
      ?divisions⟩
    case classes =>
      have hclass {name : String} (hname : Writable name.toList) :=
        check_isA hs (check_schemaName hname)
      simp only [List.forall_mem_cons, List.not_mem_nil, false_implies, implies_true, and_true]
      exact ⟨hclass (by decide), hclass (by decide)⟩
    case name => exact check_checked hs (check_schemaName (by decide)) fun _ => check_title
    case start => exact check_fact hs (check_schemaName (by decide)) fun _ => check_typed? rfl
    case finish => exact check_fact hs (check_schemaName (by decide)) fun _ => check_typed? rfl
    case location => exact check_fact hs (check_schemaName (by decide)) fun _ => check_plain?
    case distance => exact check_checked hs (check_raceName (by decide)) fun _ => check_distance
    case url =>
      refine check_checked hs (check_schemaName (by decide)) fun o ho => ?_
      obtain ⟨u, hu, hoccurs, rfl⟩ := address_eq_ok_iff.1 ho
      exact (check_address_iff hoccurs).2 (haddress u hu hoccurs)
    case description => exact check_fact hs (check_schemaName (by decide)) fun _ => check_plain?
    case types =>
      exact check_concepts hcolon hbase (by decide) hs (check_raceName (by decide)) hlabel _
    case divisions =>
      exact check_concepts hcolon hbase (by decide) hs (check_raceName (by decide)) hlabel _

theorem check_athlete_iff (hcolon : ':' ∈ base.toList) {a : Athlete} :
    (∀ t ∈ athlete base a, t.check = .ok ()) ↔ Writable base.toList := by
  have hminted := minted_athleteIri base a.id
  constructor
  · intro h
    have hclass := h (isA (athleteIri base a.id) (schemaName "Person")) (by simp [athlete])
    exact hminted.writable_of_isA hcolon hclass
  · intro hbase
    have hs := (hminted.check_iff hcolon).2 hbase
    simp only [athlete, List.forall_mem_append, and_assoc]
    refine ⟨?cls, ?given, ?family, ?name, ?gender, ?birthYear, ?nationality, ?clubs⟩
    case cls => simpa using check_isA hs (check_schemaName (by decide))
    case given => exact check_fact hs (check_schemaName (by decide)) fun _ => check_plain?
    case family => exact check_fact hs (check_schemaName (by decide)) fun _ => check_plain?
    case name => exact check_fact hs (check_schemaName (by decide)) fun _ => check_fullName?
    case gender => exact check_fact hs (check_schemaName (by decide)) fun _ => check_plain?
    case birthYear => exact check_fact hs (check_raceName (by decide)) fun _ => check_typed? rfl
    case nationality => exact check_fact hs (check_schemaName (by decide)) fun _ => check_plain?
    case clubs =>
      exact check_concepts hcolon hbase (by decide) hs (check_schemaName (by decide))
        (check_schemaName (by decide)) _

theorem check_result_iff (hcolon : ':' ∈ base.toList) {r : RaceResult} :
    (∀ t ∈ result base r, t.check = .ok ()) ↔ Writable base.toList := by
  have hminted := minted_resultIri base r.id
  constructor
  · intro h
    have hclass := h (isA (resultIri base r.id) (raceName "RaceResult")) (by simp [result])
    exact hminted.writable_of_isA hcolon hclass
  · intro hbase
    have hs := (hminted.check_iff hcolon).2 hbase
    simp only [result, List.forall_mem_append, and_assoc]
    refine ⟨?cls, ?event, ?athlete, ?seconds, ?time, ?place, ?division, ?age, ?bib⟩
    case cls => simpa using check_isA hs (check_raceName (by decide))
    case event =>
      exact check_checked hs (check_raceName (by decide)) fun _ =>
        check_link fun n => ((minted_eventIri base n).check_iff hcolon).2 hbase
    case athlete =>
      exact check_checked hs (check_raceName (by decide)) fun _ =>
        check_link fun n => ((minted_athleteIri base n).check_iff hcolon).2 hbase
    case seconds => exact check_fact hs (check_raceName (by decide)) fun _ => check_typed? rfl
    case time => exact check_fact hs (check_raceName (by decide)) fun _ => check_typed? rfl
    case place => exact check_checked hs (check_raceName (by decide)) fun _ => check_place
    case division => exact check_fact hs (check_raceName (by decide)) fun _ => check_plain?
    case age => exact check_fact hs (check_raceName (by decide)) fun _ => check_typed? rfl
    case bib => exact check_fact hs (check_raceName (by decide)) fun _ => check_plain?

/-- All triples of a snapshot can be written exactly if the base can, for which there has to be an
entity, and every web address can. -/
theorem check_snapshot_iff (hcolon : ':' ∈ base.toList) {s : Snapshot} :
    (∀ t ∈ snapshot base s, t.check = .ok ()) ↔
      (s ≠ .empty → Writable base.toList) ∧ ∀ e ∈ s.events, e.AddressWritable := by
  simp only [snapshot, List.forall_mem_append, List.forall_mem_flatMap, check_event_iff hcolon,
    check_athlete_iff hcolon, check_result_iff hcolon]
  constructor
  · rintro ⟨⟨hevents, hathletes⟩, hresults⟩
    refine ⟨fun hne => ?_, fun e he => (hevents e he).2⟩
    match s with
    | ⟨e :: _, _, _⟩ => exact (hevents e List.mem_cons_self).1
    | ⟨[], a :: _, _⟩ => exact hathletes a List.mem_cons_self
    | ⟨[], [], r :: _⟩ => exact hresults r List.mem_cons_self
    | ⟨[], [], []⟩ => exact absurd rfl hne
  · rintro ⟨hbase, haddress⟩
    refine ⟨⟨fun e he => ⟨hbase ?_, haddress e he⟩, fun a ha => hbase ?_⟩, fun r hr => hbase ?_⟩
    all_goals
      rintro rfl
      contradiction

end Mapping

end LinkedRaces
