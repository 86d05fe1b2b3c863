import LinkedRaces.Proofs.Graph.Turtle.Legibility
import LinkedRaces.Proofs.Rdf.Directory

/-!
What a base makes of the references that the writer has checked. The check asks for a colon, and a
scheme is a letter with scheme characters before the first colon. A reference that passes without a
scheme is a relative one, and under a base the document says something else than the triples.
-/

namespace LinkedRaces

theorem Iri.hasScheme_iff_of_check {i : Iri} (h : i.check = .ok ()) :
    hasScheme i.text.toList ↔ IsScheme (i.text.toList.takeWhile (· != ':') ++ [':']) := by
  obtain ⟨name, rest, htext, hname⟩ := List.eq_append_cons_of_mem (check_eq_ok_iff.1 h).2.1
  rw [htext, hasScheme_colon_iff hname, Text.takeWhile_append_of_notMem hname]
  simp

namespace Turtle

variable {t : Namespaces} {i b : Iri} {x : Triple} {ts : List Triple}

/-- What stands between angle brackets so that the IRI can be written: its namespace, in the
preamble, or all of it. -/
def bracketed (t : Namespaces) (i : Iri) : String :=
  match t.abbreviate? i.text with
  | some a => a.ns
  | none => i.text

theorem reread_eq_self_iff : reread t i = i ↔ t.resolve (bracketed t i) = ⟨bracketed t i⟩ := by
  unfold reread bracketed
  cases ha : t.abbreviate? i.text with
  | none => rfl
  | some a =>
    have htext : i = ⟨a.ns ++ String.ofList a.name⟩ := by
      rw [Namespaces.text_abbreviation ha]
    calc (⟨(t.resolve a.ns).text ++ String.ofList a.name⟩ : Iri) = i
        ↔ (t.resolve a.ns).text = a.ns := by
          rw [htext, Iri.mk.injEq, ← String.toList_inj, String.toList_append, String.toList_append,
            List.append_left_inj, String.toList_inj]
      _ ↔ t.resolve a.ns = ⟨a.ns⟩ := by
          cases t.resolve a.ns
          rw [Iri.mk.injEq]

def verbNames (p : Iri) : List Iri := if p = Vocabulary.rdfType then [] else [p]

def objectNames : Term → List Iri
  | .iri i => [i]
  | .literal l => l.datatype?.toList
  | .var _ => []

def names (x : Triple) : List Iri := verbNames x.predicate ++ objectNames x.object

theorem rereadPredicate_eq_self_iff {p : Iri} :
    rereadPredicate t p = p ↔ ∀ i ∈ verbNames p, reread t i = i := by
  unfold rereadPredicate verbNames
  split <;> simp

theorem rereadLiteral_eq_self_iff {l : Literal} :
    rereadLiteral t l = l ↔ ∀ datatype ∈ l.datatype?, reread t datatype = datatype := by
  unfold rereadLiteral Literal.datatype?
  cases hk : l.kind with
  | typed datatype =>
    refine ⟨?_, fun h => ?_⟩
    · rintro heq _ ⟨⟩
      have hkind := congrArg Literal.kind heq
      rw [hk] at hkind
      exact Literal.Kind.typed.inj hkind
    · dsimp only
      rw [h datatype rfl, Literal.typed_eq hk]
  | _ => simp

theorem rereadObject_eq_self_iff {o : Term} :
    rereadObject t o = o ↔ ∀ i ∈ objectNames o, reread t i = i := by
  cases o with
  | iri i => simp [rereadObject, objectNames]
  | literal l => simp [rereadObject, objectNames, rereadLiteral_eq_self_iff]
  | var name => simp [rereadObject, objectNames]

theorem rereadTriple_eq_self_iff (hsubject : rereadSubject t x.subject = x.subject) :
    rereadTriple t x = x ↔ ∀ i ∈ names x, reread t i = i := by
  obtain ⟨s, p, o⟩ := x
  rw [rereadTriple, Triple.mk.injEq, rereadPredicate_eq_self_iff, rereadObject_eq_self_iff, names,
    List.forall_mem_append]
  exact and_iff_right hsubject

/-- Under a base, the document of any triples says the same as they do if and only if the base
leaves each reference in brackets as it is. -/
theorem read_write_eq_regroup_iff (ht : t.Spellable) (hbase : t.base = some b)
    (htag : ∀ x ∈ ts, x.object.TagLegible)
    (hsubject : ∀ x ∈ ts, rereadSubject t x.subject = x.subject) {text : String}
    (htext : write t ts = .ok text) :
    read text = .ok (regroup ts) ↔
      ∀ x ∈ ts, ∀ i ∈ names x, b.resolve (bracketed t i) = ⟨bracketed t i⟩ := by
  have hmem {x : Triple} : x ∈ regroup ts ↔ x ∈ ts := (perm_regroup ts).mem_iff
  have hresolve (i : Iri) : reread t i = i ↔ b.resolve (bracketed t i) = ⟨bracketed t i⟩ := by
    simp [reread_eq_self_iff, Namespaces.resolve, hbase]
  rw [read_write_legible ht htag htext, Except.ok.injEq]
  calc (regroup ts).map (rereadTriple t) = regroup ts
      ↔ ∀ x ∈ regroup ts, rereadTriple t x = x := by
        conv_lhs => rw [← List.map_id (regroup ts), List.map_map, List.map_eq_map_iff]
        rfl
    _ ↔ ∀ x ∈ ts, ∀ i ∈ names x, reread t i = i := by
        simp only [hmem]
        exact forall₂_congr fun x hx => rereadTriple_eq_self_iff (hsubject x hx)
    _ ↔ _ := by simp only [hresolve]

/-- What the check accepts is read as itself against a base just if the name of a scheme stands
before its first colon, or if the base has nothing to put in front of it. So accepted triples come
back under a base as they were just if it leaves what is written in brackets. -/
theorem accepted_unmoved_iff (base : Iri) :
    (∀ i : Iri, i.check = .ok () →
      (base.resolve i.text = i ↔
        Iri.IsScheme (i.text.toList.takeWhile (· != ':') ++ [':']) ∨ base.text = "" ∨
          i.text.toList.head? = some '#' ∧ base.text.toList.head? = some '#')) ∧
    ∀ (t : Namespaces) (ts : List Triple) (text : String), t.Spellable →
      t.base = some base → (∀ x ∈ ts, x.object.TagLegible) →
      (∀ x ∈ ts, rereadSubject t x.subject = x.subject) → write t ts = .ok text →
      (read text = .ok (regroup ts) ↔
        ∀ x ∈ ts, ∀ i ∈ names x, base.resolve (bracketed t i) = ⟨bracketed t i⟩) := by
  refine ⟨fun i hi => ?_, fun t ts text ht hbase htag hsubject htext =>
    read_write_eq_regroup_iff ht hbase htag hsubject htext⟩
  rw [← Iri.hasScheme_iff_of_check hi]
  exact Iri.resolve_eq_self_iff

def baseTable : Namespaces := ⟨∅, some ⟨"http://e/"⟩⟩

theorem accepted_unmoved_urn :
    let stored (o : String) : Triple := ⟨⟨"http://e/s"⟩, ⟨"http://e/p"⟩, .iri ⟨o⟩⟩
    (⟨"urn:a/b:c"⟩ : Iri).check = .ok () ∧
      (∀ base : Iri, base.resolve "urn:a/b:c" = ⟨"urn:a/b:c"⟩) ∧
      ∃ text, write baseTable [stored "urn:a/b:c"] = .ok text ∧
        read text = .ok [stored "urn:a/b:c"] := by
  intro stored
  have hcheck : (⟨"urn:a/b:c"⟩ : Iri).check = .ok () := by decide +kernel
  have hscheme : Iri.IsScheme ("urn:a/b:c".toList.takeWhile (· != ':') ++ [':']) :=
    ⟨'u', "rn".toList, by decide, by decide, by decide⟩
  have hresolve (base : Iri) : base.resolve "urn:a/b:c" = ⟨"urn:a/b:c"⟩ :=
    ((accepted_unmoved_iff base).1 ⟨"urn:a/b:c"⟩ hcheck).2 (.inl hscheme)
  have hspellable : baseTable.Spellable := ⟨by decide +kernel, by decide +kernel⟩
  have hsubject : ∀ x ∈ [stored "urn:a/b:c"], rereadSubject baseTable x.subject = x.subject := by
    rw [List.forall_mem_singleton]
    decide +kernel
  have htag : ∀ x ∈ [stored "urn:a/b:c"], x.object.TagLegible := by
    rw [List.forall_mem_singleton]
    trivial
  obtain ⟨text, htext⟩ : ∃ text, write baseTable [stored "urn:a/b:c"] = .ok text :=
    exists_write_iff.2 (by rw [List.forall_mem_singleton]; decide +kernel)
  refine ⟨hcheck, hresolve, text, htext, ?_⟩
  have hread := (accepted_unmoved_iff ⟨"http://e/"⟩).2 baseTable _ text hspellable rfl htag hsubject
    htext
  exact hread.2 (by decide +kernel)

theorem accepted_moved :
    let stored (o : String) : Triple := ⟨⟨"http://e/s"⟩, ⟨"http://e/p"⟩, .iri ⟨o⟩⟩
    (⟨"a/b:c"⟩ : Iri).check = .ok () ∧
      (⟨"http://e/"⟩ : Iri).resolve "a/b:c" = ⟨"http://e/a/b:c"⟩ ∧
      write baseTable [stored "a/b:c"] =
        .ok "@base <http://e/> .\n\n<s> <http://e/p> <a/b:c> .\n" ∧
      read "@base <http://e/> .\n\n<s> <http://e/p> <a/b:c> .\n" =
        .ok [stored "http://e/a/b:c"] := by
  decide +kernel

end Turtle

end LinkedRaces
