import LinkedRaces.Proofs.Dictionary
import LinkedRaces.Proofs.Lexical.Spelling
import LinkedRaces.Proofs.Rdf.Relative
import LinkedRaces.Rdf.Namespaces
import Mathlib.Tactic.Tauto

/-!
Short forms of IRIs name what they are short for: a prefixed name under the table that made it is
read as the IRI, and so are declarations.
-/

namespace LinkedRaces

namespace Namespaces

theorem longest_mem {as : List Abbreviation} {a : Abbreviation} (h : longest as = some a) :
    a ∈ as := by
  induction as with
  | nil => cases h
  | cons b as ih =>
    rw [longest] at h
    split at h
    next =>
      obtain rfl := Option.some.inj h
      exact List.mem_cons_self
    next c hc =>
      split at h
      · obtain rfl := Option.some.inj h
        exact List.mem_cons_self
      · exact List.mem_cons_of_mem _ (ih (hc.trans h))

theorem longest_eq_none_iff {as : List Abbreviation} : longest as = none ↔ as = [] := by
  cases as with
  | nil => simp [longest]
  | cons a as =>
    rw [longest]
    split
    next => simp
    next => split <;> simp

theorem ns_le_of_longest {as : List Abbreviation} {a : Abbreviation} (h : longest as = some a) :
    ∀ b ∈ as, b.ns.utf8ByteSize ≤ a.ns.utf8ByteSize := by
  induction as generalizing a with
  | nil => exact List.forall_mem_nil _
  | cons b as ih =>
    rw [longest] at h
    rw [List.forall_mem_cons]
    split at h
    next hnone =>
      obtain rfl := Option.some.inj h
      obtain rfl := longest_eq_none_iff.1 hnone
      exact ⟨Nat.le_refl _, List.forall_mem_nil _⟩
    next c hc =>
      have hrest := ih hc
      split at h
      next hlt =>
        obtain rfl := Option.some.inj h
        exact ⟨Nat.le_refl _, fun d hd => Nat.le_trans (hrest d hd) (Nat.le_of_lt hlt)⟩
      next hle =>
        obtain rfl := Option.some.inj h
        exact ⟨Nat.le_of_not_lt hle, hrest⟩

theorem abbreviation?_eq_some_iff {iri : List Char} {e : String × String} {a : Abbreviation} :
    abbreviation? iri e = some a ↔
      (a.label, a.ns) = e ∧ iri = a.ns.toList ++ a.name ∧ isLocalName a.name := by
  obtain ⟨label, ns⟩ := e
  obtain ⟨label', ns', name⟩ := a
  simp only [abbreviation?, Option.map_eq_some_iff, Option.filter_eq_some_iff,
    Text.dropBeginning?_eq_some_iff, Abbreviation.mk.injEq, Prod.mk.injEq]
  constructor
  · rintro ⟨rest, ⟨hiri, hlocal⟩, rfl, rfl, rfl⟩
    exact ⟨⟨rfl, rfl⟩, hiri, hlocal⟩
  · rintro ⟨⟨rfl, rfl⟩, hiri, hlocal⟩
    exact ⟨name, ⟨hiri, hlocal⟩, rfl, rfl, rfl⟩

def abbreviate? (t : Namespaces) (iri : String) : Option Abbreviation :=
  longest (t.prefixes.entries.filterMap (abbreviation? iri.toList))

theorem compact?_eq (t : Namespaces) (iri : String) :
    t.compact? iri = (t.abbreviate? iri).map Abbreviation.text := rfl

theorem abbreviate?_spec {t : Namespaces} {iri : String} {a : Abbreviation}
    (h : t.abbreviate? iri = some a) :
    (a.label, a.ns) ∈ t.prefixes.entries ∧ iri.toList = a.ns.toList ++ a.name ∧
      isLocalName a.name := by
  obtain ⟨e, he, ha⟩ := List.mem_filterMap.1 (longest_mem h)
  obtain ⟨rfl, hname⟩ := abbreviation?_eq_some_iff.1 ha
  exact ⟨he, hname⟩

theorem get?_abbreviation {t : Namespaces} {iri : String} {a : Abbreviation}
    (h : t.abbreviate? iri = some a) : t.get? a.label = some a.ns :=
  Dictionary.get?_of_mem (abbreviate?_spec h).1

theorem text_abbreviation {t : Namespaces} {iri : String} {a : Abbreviation}
    (h : t.abbreviate? iri = some a) : a.ns ++ String.ofList a.name = iri := by
  rw [← String.toList_inj, (abbreviate?_spec h).2.1, String.toList_append, String.toList_ofList]

theorem expand?_abbreviation {t : Namespaces} {i : Iri} {a : Abbreviation}
    (h : t.abbreviate? i.text = some a) : t.expand? a.label (String.ofList a.name) = some i := by
  rw [expand?, get?_abbreviation h, Option.map_some, text_abbreviation h]

theorem isName_of_isLocalName {cs : List Char} (h : isLocalName cs) : Scanner.isName cs := by
  cases cs with
  | nil => cases h
  | cons c rest =>
    simp only [isLocalName, Bool.and_eq_true] at h
    obtain ⟨⟨hfirst, hrest⟩, hlast⟩ := h
    have hchar : ∀ d, isNameChar d → Scanner.isLocalChar d := by
      intro d hd
      simp only [isNameChar, Bool.or_eq_true] at hd
      simp only [Scanner.isLocalChar, Scanner.isWordChar, Scanner.isNameChar, Bool.or_eq_true]
      tauto
    have hc : Scanner.isLocalChar c := by
      simp only [Scanner.isLocalChar, Scanner.isWordChar, Scanner.isNameChar, hfirst, Bool.true_or]
    simp only [Scanner.isName, List.all_cons, hc, Bool.true_and, Bool.and_eq_true]
    exact ⟨List.all_eq_true.2 fun d hd => hchar d (List.all_eq_true.1 hrest d hd), hlast⟩

theorem isLabel_of_isPrefixLabel {cs : List Char} (h : isPrefixLabel cs) : Scanner.isLabel cs := by
  cases cs with
  | nil => rfl
  | cons c rest =>
    simp only [isPrefixLabel, Bool.and_eq_true, List.all_eq_true, Bool.or_eq_true, beq_iff_eq] at h
    obtain ⟨hfirst, hrest⟩ := h
    have hchar : ∀ d ∈ c :: rest, Scanner.isWordChar d ∧ d ≠ '.' := by
      rw [List.forall_mem_cons]
      refine ⟨⟨by simp [Scanner.isWordChar, Scanner.isNameChar, Text.isAlphanumeric, hfirst], ?_⟩,
        fun d hd => ⟨?_, ?_⟩⟩
      · rintro rfl
        exact absurd hfirst (by decide)
      · rcases hrest d hd with (h | rfl) | rfl
        · simp [Scanner.isWordChar, Scanner.isNameChar, h]
        · decide
        · decide
      · rintro rfl
        exact absurd (hrest '.' hd) (by decide)
    have hlast : (c :: rest).getLast? ≠ some '.' := fun hdot =>
      (hchar '.' (List.mem_of_getLast? hdot)).2 rfl
    simp only [Scanner.isLabel, Scanner.isBareWord, List.isEmpty_cons, Bool.false_or,
      List.head?_cons, Option.any_some, hfirst, Bool.true_and, Bool.and_eq_true, List.all_eq_true,
      bne_iff_ne]
    exact ⟨fun d hd => (hchar d hd).1, hlast⟩

theorem resolve_absolute {i : Iri} (h : i.Absolute) (t : Namespaces) : t.resolve i.text = i := by
  cases hbase : t.base with
  | none => simp [resolve, hbase]
  | some base => simpa [resolve, hbase] using Iri.resolve_absolute h base

/-- Every prefix can be declared, and every namespace and the base can be written. -/
structure Declarable (t : Namespaces) : Prop where
  label : ∀ e ∈ t.prefixes.entries, Scanner.isLabel e.1.toList
  absolute : ∀ e ∈ t.prefixes.entries, Iri.hasScheme e.2.toList
  legible : ∀ e ∈ t.prefixes.entries, ∀ c ∈ e.2.toList, Scanner.isReferenceChar c
  base : ∀ b, t.base = some b → b.Legible ∧ '#' ∉ b.text.toList

def references (t : Namespaces) : List Iri :=
  t.base.toList ++ t.prefixes.entries.map fun e => ⟨e.2⟩

theorem base_mem_references (t : Namespaces) {b : Iri} (h : t.base = some b) : b ∈ t.references :=
  List.mem_append_left _ (Option.mem_toList.2 h)

theorem namespace_mem_references (t : Namespaces) {e : String × String}
    (h : e ∈ t.prefixes.entries) : ⟨e.2⟩ ∈ t.references :=
  List.mem_append_right _ (List.mem_map.2 ⟨e, h, rfl⟩)

/-- Every declaration can be read again. A namespace may be relative, and a base of any form. -/
structure Spellable (t : Namespaces) : Prop where
  label : ∀ e ∈ t.prefixes.entries, Scanner.isLabel e.1.toList
  legible : ∀ i ∈ t.references, i.Legible

theorem Declarable.spellable {t : Namespaces} (h : t.Declarable) : t.Spellable := by
  refine ⟨h.label, fun i hi => ?_⟩
  rcases List.mem_append.1 hi with hi | hi
  · exact (h.base i (Option.mem_toList.1 hi)).1
  · obtain ⟨e, he, rfl⟩ := List.mem_map.1 hi
    exact h.legible e he

/-- The table of a reader after the declarations. A namespace is read as a reference, against the
base. -/
def declared (t : Namespaces) : Namespaces :=
  { t with prefixes := t.prefixes.mapValues fun ns => (t.resolve ns).text }

theorem expand?_declared (t : Namespaces) (label name : String) :
    t.declared.expand? label name =
      (t.get? label).map fun ns => ⟨(t.resolve ns).text ++ name⟩ := by
  simp [expand?, declared, get?, Function.comp_def]

theorem Declarable.resolve_namespace {t : Namespaces} (h : t.Declarable) {label ns : String}
    (hmem : (label, ns) ∈ t.prefixes.entries) : t.resolve ns = ⟨ns⟩ :=
  resolve_absolute (i := ⟨ns⟩) (h.absolute _ hmem) t

theorem Declarable.declared_eq {t : Namespaces} (h : t.Declarable) : t.declared = t := by
  have hprefixes : t.prefixes.mapValues (fun ns => (t.resolve ns).text) = t.prefixes :=
    Dictionary.mapValues_eq_self fun e he => congrArg Iri.text (h.resolve_namespace he)
  simp only [declared, hprefixes]

end Namespaces

end LinkedRaces
