import LinkedRaces.Proofs.Race.Mapping
import LinkedRaces.Proofs.Rdf.Resolution
import LinkedRaces.Settings.Basic

/-!
What settings that are accepted say about the base, the limit and the prefixes, and which of them
lead to names that can be written. Prefixes can always be declared.
-/

namespace LinkedRaces.Settings

variable {s : Settings}

theorem validate_eq_ok_iff :
    s.validate = .ok () ↔
      Text.occursIn "://".toList s.baseIri.toList ∧ s.maxLimit ≠ 0 ∧
        ∀ e ∈ s.prefixes, isPrefixLabel e.1.toList := by
  have hfault : s.validate = .ok () ↔ s.fault? = none := by
    unfold validate
    split <;> simp_all
  rw [hfault, fault?]
  split
  next hbase =>
    have hscheme : Text.occursIn "://".toList s.baseIri.toList = false := by simpa using hbase
    simp only [hscheme]
    simp
  next hbase =>
    split
    next hlimit => simp [hlimit]
    next hlimit =>
      have hscheme : Text.occursIn "://".toList s.baseIri.toList := by simpa using hbase
      simp only [hscheme, hlimit, ne_eq, not_false_eq_true, true_and]
      simp

theorem colon_mem_base (h : s.validate = .ok ()) :
    ':' ∈ (Mapping.normalBase s.baseIri).toList :=
  have hcolon : ':' ∈ s.baseIri.toList :=
    Text.subset_of_occursIn (validate_eq_ok_iff.1 h).1 (by decide)
  (Mapping.prefix_normalBase _).subset hcolon

theorem namesWritable_namespaces (hscheme : Iri.hasScheme s.baseIri.toList)
    (hbase : Writable s.baseIri.toList)
    (hprefixes : ∀ e ∈ s.prefixes, ':' ∈ e.2.toList ∧ Writable e.2.toList) :
    s.namespaces.NamesWritable := by
  refine ⟨⟨_, rfl, ?_, Mapping.writable_normalBase.2 hbase⟩, fun e he => ?_⟩
  · obtain ⟨rest, hrest⟩ := Mapping.prefix_normalBase s.baseIri
    rw [Iri.Absolute, ← hrest]
    exact Iri.hasScheme_append hscheme rest
  · have hknown : ∀ e ∈ wellKnownNamespaces, ':' ∈ e.2.toList ∧ Writable e.2.toList := by decide
    rcases Dictionary.mem_insertAll he with he | he
    · exact hknown e (Dictionary.mem_ofList he)
    · exact hprefixes e he

theorem isLabel_namespaces (h : s.validate = .ok ()) :
    ∀ e ∈ s.namespaces.prefixes.entries, Scanner.isLabel e.1.toList := by
  have hknown : ∀ e ∈ wellKnownNamespaces, Scanner.isLabel e.1.toList := by decide
  intro e he
  rcases Dictionary.mem_insertAll he with he | he
  · exact hknown e (Dictionary.mem_ofList he)
  · exact Namespaces.isLabel_of_isPrefixLabel ((validate_eq_ok_iff.1 h).2.2 e he)

end LinkedRaces.Settings
