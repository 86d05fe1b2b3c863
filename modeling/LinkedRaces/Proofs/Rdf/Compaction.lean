import LinkedRaces.Proofs.Rdf.Resolution

/-!
Compaction and its inverses. A prefixed name is made of the longest namespace that leaves a local
name, and it is read back as the IRI in three ways: from the prefix and the name, from the text at
its first colon, and by the tokenizer, for which the text is one token.
-/

namespace LinkedRaces

namespace Namespaces

variable {t : Namespaces} {iri : String} {a : Abbreviation}

def Leaves (ns iri : String) : Prop := ∃ name, iri.toList = ns.toList ++ name ∧ isLocalName name

theorem leaves_iff {e : String × String} :
    Leaves e.2 iri ↔ ∃ a, abbreviation? iri.toList e = some a := by
  constructor
  · rintro ⟨name, hname⟩
    exact ⟨⟨e.1, e.2, name⟩, abbreviation?_eq_some_iff.2 ⟨rfl, hname⟩⟩
  · rintro ⟨a, ha⟩
    obtain ⟨rfl, hname⟩ := abbreviation?_eq_some_iff.1 ha
    exact ⟨a.name, hname⟩

theorem compact?_eq_none_iff :
    t.compact? iri = none ↔ ∀ e ∈ t.prefixes.entries, ¬ Leaves e.2 iri := by
  rw [compact?_eq, Option.map_eq_none_iff, abbreviate?, longest_eq_none_iff,
    List.filterMap_eq_nil_iff]
  refine forall₂_congr fun e _ => ?_
  rw [leaves_iff, Option.eq_none_iff_forall_ne_some, not_exists]

theorem ns_le_of_abbreviate? (ha : t.abbreviate? iri = some a) :
    ∀ e ∈ t.prefixes.entries, Leaves e.2 iri → e.2.utf8ByteSize ≤ a.ns.utf8ByteSize := by
  intro e he hleaves
  obtain ⟨b, hb⟩ := leaves_iff.1 hleaves
  have hle := ns_le_of_longest ha b (List.mem_filterMap.2 ⟨e, he, hb⟩)
  obtain ⟨rfl, -⟩ := abbreviation?_eq_some_iff.1 hb
  exact hle

theorem toList_text (a : Abbreviation) : a.text.toList = a.label.toList ++ ':' :: a.name := by
  simp [Abbreviation.text]

theorem colon_notMem_of_isLabel {label : List Char} (h : Scanner.isLabel label) : ':' ∉ label := by
  intro hmem
  rcases Bool.or_eq_true_iff.1 h with hempty | hword
  · rw [List.isEmpty_iff.1 hempty] at hmem
    cases hmem
  · exact absurd (Scanner.isWordChar_of_isBareWord hword ':' hmem) (by decide)

theorem expandPrefixed?_text (t : Namespaces) (hlabel : ':' ∉ a.label.toList) :
    t.expandPrefixed? a.text = t.expand? a.label (String.ofList a.name) := by
  simp only [expandPrefixed?, toList_text, Text.splitAt?_append hlabel, Option.bind_some,
    String.ofList_toList]

/-- A table whose labels can be written compacts an IRI to a single token, and the token as well as
its text stand for the IRI. No entry with a longer namespace would leave a local name, and if
nothing is returned then no entry does. -/
theorem compact?_spec (hlabel : ∀ e ∈ t.prefixes.entries, Scanner.isLabel e.1.toList)
    (iri : String) :
    (∀ text, t.compact? iri = some text → ∃ label ns name,
      tokenize text.toList = .ok [⟨.prefixed label name, text.toList⟩] ∧
      t.get? label = some ns ∧ t.expand? label name = some ⟨iri⟩ ∧
      t.expandPrefixed? text = some ⟨iri⟩ ∧
      ∀ e ∈ t.prefixes.entries, Leaves e.2 iri → e.2.utf8ByteSize ≤ ns.utf8ByteSize) ∧
    (t.compact? iri = none ↔ ∀ e ∈ t.prefixes.entries, ¬ Leaves e.2 iri) := by
  refine ⟨fun text htext => ?_, compact?_eq_none_iff⟩
  obtain ⟨a, ha, rfl⟩ := Option.map_eq_some_iff.1 htext
  have ha : t.abbreviate? iri = some a := ha
  obtain ⟨hmem, -, hlocal⟩ := abbreviate?_spec ha
  have htoken := tokenize_prefixed (hlabel _ hmem) (isName_of_isLocalName hlocal)
  have hexpand : t.expand? a.label (String.ofList a.name) = some ⟨iri⟩ :=
    expand?_abbreviation (i := ⟨iri⟩) ha
  refine ⟨a.label, a.ns, String.ofList a.name, ?_, get?_abbreviation ha, hexpand, ?_,
    ns_le_of_abbreviate? ha⟩
  · rw [toList_text, htoken, String.ofList_toList]
  · rw [expandPrefixed?_text t (colon_notMem_of_isLabel (hlabel _ hmem)), hexpand]

def overlapTable : Namespaces :=
  ⟨Dictionary.ofList [("", "http://example.org/"), ("e.1-", "http://example.org/events/1."),
    ("e", "http://example.org/events/")], none⟩

theorem compact?_overlap :
    (∀ e ∈ overlapTable.prefixes.entries, Scanner.isLabel e.1.toList) ∧
    overlapTable.compact? "http://example.org/events/1.b" = some "e.1-:b" ∧
    (∃ label ns name,
      tokenize "e.1-:b".toList = .ok [⟨.prefixed label name, "e.1-:b".toList⟩] ∧
      overlapTable.get? label = some ns ∧
      overlapTable.expand? label name = some ⟨"http://example.org/events/1.b"⟩ ∧
      overlapTable.expandPrefixed? "e.1-:b" = some ⟨"http://example.org/events/1.b"⟩ ∧
      ∀ e ∈ overlapTable.prefixes.entries, Leaves e.2 "http://example.org/events/1.b" →
        e.2.utf8ByteSize ≤ ns.utf8ByteSize) ∧
    ∀ e ∈ overlapTable.prefixes.entries, ¬ Leaves e.2 "http://example.org/events/1." := by
  have hlabel : ∀ e ∈ overlapTable.prefixes.entries, Scanner.isLabel e.1.toList := by
    decide +kernel
  have hcompact : overlapTable.compact? "http://example.org/events/1.b" = some "e.1-:b" := by
    decide +kernel
  exact ⟨hlabel, hcompact, (compact?_spec hlabel _).1 _ hcompact,
    (compact?_spec hlabel _).2.1 (by decide +kernel)⟩

end Namespaces

end LinkedRaces
