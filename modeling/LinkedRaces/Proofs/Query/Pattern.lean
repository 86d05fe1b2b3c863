import LinkedRaces.Proofs.Graph.Writable
import LinkedRaces.Proofs.Query.Rendering
import LinkedRaces.Proofs.Query.Grammar
import LinkedRaces.Query.Matching

/-! Triples as patterns. A pattern without variables fits the triple that it was made from only. -/

namespace LinkedRaces

def Triple.pattern (t : Triple) : TriplePattern := ⟨.iri t.subject, .iri t.predicate, t.object⟩

theorem Term.isVar_of_check {t : Term} (h : t.check = .ok ()) : t.isVar = false := by
  cases t with
  | var name => cases h
  | _ => rfl

theorem Term.matchValue?_const {p : Term} (hp : p.isVar = false) (value : Term) (row : Binding) :
    p.matchValue? value row = if p = value then some row else none := by
  cases p with
  | var name => cases hp
  | _ => rfl

theorem Term.substitute_const {t : Term} (ht : t.isVar = false) (row : Binding) :
    t.substitute row = t := by
  cases t with
  | var name => cases ht
  | _ => rfl

namespace Triple

variable {t : Triple}

theorem grammatical_pattern (h : t.object.isVar = false) : t.pattern.Grammatical := by
  refine ⟨rfl, rfl, fun c hc => ?_⟩
  simp only [pattern, TriplePattern.terms, List.mem_cons, List.not_mem_nil, or_false] at hc
  rcases hc with rfl | rfl | rfl
  · trivial
  · trivial
  · cases hobject : t.object with
    | var name => simp [hobject, Term.isVar] at h
    | _ => trivial

theorem substitute_pattern (h : t.object.isVar = false) (row : Binding) :
    t.pattern.substitute row = t.pattern := by
  have hobject := Term.substitute_const h row
  simp only [TriplePattern.substitute, pattern, hobject]
  rfl

theorem matchTriple?_pattern (h : t.object.isVar = false) (u : Triple) (row : Binding) :
    t.pattern.matchTriple? u row = if u = t then some row else none := by
  have hiri (i j : Iri) :
      (Term.iri i).matchValue? (.iri j) row = if i = j then some row else none := by
    simpa using Term.matchValue?_const (p := .iri i) rfl (.iri j) row
  have hobject := Term.matchValue?_const h u.object row
  obtain ⟨s, p, o⟩ := t
  obtain ⟨s', p', o'⟩ := u
  simp only [TriplePattern.matchTriple?, pattern, hiri, bind, Triple.mk.injEq]
  by_cases hs : s = s'
  · by_cases hp : p = p'
    · simpa [hiri, hs, hp, eq_comm] using hobject
    · simp [hiri, hs, hp, Ne.symm hp]
  · simp [hs, Ne.symm hs]

end Triple

namespace Store

theorem extend_pattern (s : Store) {t : Triple} (h : t.object.isVar = false) (row : Binding) :
    s.extend t.pattern row = List.replicate (s.triples.count t) row := by
  simp only [extend, Triple.substitute_pattern h, Triple.matchTriple?_pattern h]
  induction s.triples with
  | nil => rfl
  | cons u us ih =>
    by_cases hu : u = t
    · simp [hu, ih, List.replicate_succ]
    · simp [hu, ih]

theorem contains_iff_count_pos (s : Store) (t : Triple) : s.contains t ↔ 0 < s.triples.count t := by
  simp [contains, List.count_pos_iff]

end Store

end LinkedRaces
