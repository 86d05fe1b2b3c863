import LinkedRaces.Proofs.Graph.Writer
import LinkedRaces.Proofs.Settings
import LinkedRaces.Service.Basic

/-!
When the data of a service can be written out. The settings only say that the base names a scheme
and a host, and a web address is taken if it does, so that either may hold a character that no IRI
has. One such address is enough for every format to refuse all entities.
-/

namespace LinkedRaces

namespace Service

def Dumpable (s : Service) : Prop :=
  (s.snapshot ≠ .empty → Writable s.settings.baseIri.toList) ∧
    ∀ e ∈ s.snapshot.events, e.AddressWritable

variable {s : Service}

theorem exists_writeGraph_iff {t : Namespaces} {ts : List Triple} {format : GraphFormat}
    (h : format ≠ .rdfXml) :
    (∃ d, writeGraph t ts format = .ok d) ↔ ∀ x ∈ ts, x.check = .ok () := by
  rw [← LinkedRaces.exists_writeGraph_iff (t := t) h, writeGraph]
  cases LinkedRaces.writeGraph t ts format <;> simp

theorem code_of_writeGraph_error {t : Namespaces} {ts : List Triple} {format : GraphFormat}
    {f : Failure} (h : writeGraph t ts format = .error f) : f.code = .serializationFailed := by
  unfold writeGraph at h
  split at h
  · cases h
  · obtain rfl := Except.error.inj h
    rfl

/-- The mapped triples pass the check exactly if the base and all web addresses can be written. If
they can, the data is written in every format but RDF/XML; if not, each format fails, whatever else
there is. -/
theorem dump_spec (hvalid : s.settings.validate = .ok ())
    (hextra : ∀ t ∈ s.extra, t.check = .ok ()) :
    ((∀ t ∈ Mapping.snapshot (Mapping.normalBase s.settings.baseIri) s.snapshot,
        t.check = .ok ()) ↔ s.Dumpable) ∧
      ∀ format ≠ .rdfXml,
        (s.Dumpable → ∃ d, s.dump format = .ok d) ∧
        (¬ s.Dumpable → ∃ f, s.dump format = .error f ∧ f.code = .serializationFailed) := by
  have hmapped : (∀ t ∈ Mapping.snapshot (Mapping.normalBase s.settings.baseIri) s.snapshot,
      t.check = .ok ()) ↔ s.Dumpable := by
    rw [Mapping.check_snapshot_iff (Settings.colon_mem_base hvalid), Mapping.writable_normalBase,
      Dumpable]
  refine ⟨hmapped, fun format hformat => ?_⟩
  have hdump : (∃ d, s.dump format = .ok d) ↔ s.Dumpable := by
    rw [dump, exists_writeGraph_iff hformat, ← hmapped, store, List.forall_mem_append]
    exact and_iff_left hextra
  refine ⟨hdump.2, fun hnot => ?_⟩
  cases h : s.dump format with
  | ok d => exact absurd (hdump.1 ⟨d, h⟩) hnot
  | error f => exact ⟨f, rfl, code_of_writeGraph_error h⟩

def ofAddresses (addresses : List String) : Service where
  settings := {}
  snapshot := {
    events := addresses.mapIdx fun i url =>
      ⟨i + 1, some "Run", none, none, none, none, some url, none, [], []⟩
    athletes := []
    results := [] }
  extra := []

theorem dump_spec_run :
    ((ofAddresses ["http://example.org/run"]).settings.validate = .ok () ∧
      ∀ t ∈ (ofAddresses ["http://example.org/run"]).extra, t.check = .ok ()) ∧
    ∃ d, (ofAddresses ["http://example.org/run"]).dump .turtle = .ok d := by
  have hvalid : (ofAddresses ["http://example.org/run"]).settings.validate = .ok () := by rfl
  have hextra : ∀ t ∈ (ofAddresses ["http://example.org/run"]).extra, t.check = .ok () := nofun
  refine ⟨⟨hvalid, hextra⟩, ((dump_spec hvalid hextra).2 .turtle (by decide)).1 ?_⟩
  refine ⟨fun _ => by decide, ?_⟩
  simp only [ofAddresses, List.mapIdx_cons, List.mapIdx_nil, List.forall_mem_cons, List.not_mem_nil,
    false_implies, implies_true, and_true]
  intro u hu _
  obtain rfl : "http://example.org/run" = u := Option.some.inj (hu ▸ by rfl)
  decide

theorem dump_blank_address :
    (ofAddresses ["http://example.org/a b", "http://example.org/run"]).settings.validate = .ok () ∧
    (∃ t ∈ (ofAddresses ["http://example.org/a b", "http://example.org/run"]).store.triples,
      t.check ≠ .ok ()) ∧
    ∀ format ∈ [GraphFormat.turtle, .jsonLd, .nTriples],
      (ofAddresses ["http://example.org/a b", "http://example.org/run"]).dump format =
        .error ⟨.serializationFailed, "malformed IRI <http://example.org/a b>", none⟩ := by
  refine ⟨by rfl, by decide +kernel, ?_⟩
  decide +kernel

end Service

end LinkedRaces
