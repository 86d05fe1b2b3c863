import LinkedRaces.Proofs.Dictionary
import LinkedRaces.Proofs.Query.Parser.Constants
import LinkedRaces.Query.Execution

/-!
Where the terms of an answer come from. Rows only bind terms of the store, and a described triple is
one of its triples; a constructed triple has terms of the store and of the template. So an answer
from a store that can be written can be written itself, if that holds of the template.
-/

namespace LinkedRaces

def Triple.terms (t : Triple) : List Term := [.iri t.subject, .iri t.predicate, t.object]

theorem Triple.check_iff_terms {t : Triple} :
    t.check = .ok () ↔ ∀ c ∈ t.terms, c.check = .ok () := by
  simp [check_eq_ok_iff, terms, Term.check]

namespace Store

variable {s : Store} {row r : Binding}

def terms (s : Store) : List Term := s.triples.flatMap Triple.terms

def Covers (s : Store) (row : Binding) : Prop := ∀ e ∈ row.entries, e.2 ∈ s.terms

theorem covers_empty (s : Store) : s.Covers .empty := List.forall_mem_nil _

theorem Covers.get? (h : s.Covers row) {name : String} {value : Term}
    (hv : row.get? name = some value) : value ∈ s.terms :=
  h _ (Dictionary.mem_of_get? hv)

theorem Covers.matchValue? (h : s.Covers row) {p value : Term} (hv : value ∈ s.terms)
    (hr : p.matchValue? value row = some r) : s.Covers r := by
  unfold Term.matchValue? at hr
  split at hr
  next name =>
    split at hr
    · obtain rfl := Option.some.inj (Option.ite_none_right_eq_some.1 hr).2
      exact h
    · obtain rfl := Option.some.inj hr
      intro e he
      rcases Dictionary.mem_insertEntry he with rfl | he
      · exact hv
      · exact h e he
  next =>
    obtain rfl := Option.some.inj (Option.ite_none_right_eq_some.1 hr).2
    exact h

theorem Covers.matchTriple? (h : s.Covers row) {p : TriplePattern} {t : Triple}
    (ht : t ∈ s.triples) (hr : p.matchTriple? t row = some r) : s.Covers r := by
  have hterms : ∀ c ∈ t.terms, c ∈ s.terms := fun c hc => List.mem_flatMap.2 ⟨t, ht, hc⟩
  simp only [Triple.terms, List.forall_mem_cons] at hterms
  obtain ⟨hs, hp, ho, -⟩ := hterms
  obtain ⟨r₁, h₁, hr⟩ := Option.bind_eq_some_iff.1 hr
  obtain ⟨r₂, h₂, h₃⟩ := Option.bind_eq_some_iff.1 hr
  exact ((h.matchValue? hs h₁).matchValue? hp h₂).matchValue? ho h₃

theorem Covers.extend (h : s.Covers row) (p : TriplePattern) :
    ∀ r ∈ s.extend p row, s.Covers r := by
  intro r hr
  obtain ⟨t, ht, hr⟩ := List.mem_filterMap.1 hr
  exact h.matchTriple? ht hr

theorem covers_join (p : TriplePattern) {rows : List Binding} (h : ∀ r ∈ rows, s.Covers r) :
    ∀ r ∈ s.join p rows, s.Covers r := by
  intro r hr
  obtain ⟨row, hrow, hr⟩ := List.mem_flatMap.1 hr
  exact (h row hrow).extend p r hr

theorem covers_joinAll (ps : List TriplePattern) {rows : List Binding}
    (h : ∀ r ∈ rows, s.Covers r) : ∀ r ∈ s.joinAll ps rows, s.Covers r := by
  induction ps generalizing rows with
  | nil => exact h
  | cons p ps ih =>
    rw [joinAll_cons]
    exact ih (covers_join p h)

theorem Covers.leftExtend (h : s.Covers row) (b : Block) :
    ∀ r ∈ s.leftExtend b row, s.Covers r := by
  have hblock : ∀ r ∈ s.solveBlock b row, s.Covers r := fun r hr =>
    covers_joinAll b.required (List.forall_mem_singleton.2 h) r (List.mem_of_mem_filter hr)
  unfold Store.leftExtend
  split
  · exact List.forall_mem_singleton.2 h
  · exact hblock

theorem covers_leftJoins (bs : List Block) {rows : List Binding} (h : ∀ r ∈ rows, s.Covers r) :
    ∀ r ∈ bs.foldl (fun rows b => s.leftJoin b rows) rows, s.Covers r := by
  induction bs generalizing rows with
  | nil => exact h
  | cons b bs ih =>
    refine ih fun r hr => ?_
    obtain ⟨row, hrow, hr⟩ := List.mem_flatMap.1 hr
    exact (h row hrow).leftExtend b r hr

theorem covers_solve (s : Store) (g : Group) : ∀ r ∈ s.solve g, s.Covers r := by
  intro r hr
  rw [solve_eq] at hr
  have hrequired := covers_joinAll g.required (List.forall_mem_singleton.2 s.covers_empty)
  exact covers_leftJoins g.optionals hrequired r (List.mem_of_mem_filter hr)

end Store

theorem dropRepeated_subset {α κ : Type} [BEq κ] (key : α → κ) (seen : List κ) (xs : List α) :
    dropRepeated key seen xs ⊆ xs := by
  induction xs generalizing seen with
  | nil => exact List.Subset.refl _
  | cons x xs ih =>
    unfold dropRepeated
    split
    · exact List.subset_cons_of_subset x (ih seen)
    · exact List.cons_subset_cons x (ih _)

theorem Modifiers.apply_subset (m : Modifiers) (vars : List String) (rows : List Binding) :
    m.apply vars rows ⊆ rows := by
  intro r hr
  have hsorted := List.mem_mergeSort.1 (List.mem_of_mem_drop (List.mem_of_mem_take hr))
  split at hsorted
  · exact dropRepeated_subset _ _ _ hsorted
  · exact hsorted

theorem mem_of_mem_narrow {vars : List String} {row : Binding} {e : String × Term}
    (h : e ∈ (narrow vars row).entries) : e ∈ row.entries := by
  obtain ⟨name, -, he⟩ := List.mem_filterMap.1 (Dictionary.mem_ofList h)
  obtain ⟨value, hvalue, rfl⟩ := Option.map_eq_some_iff.1 he
  exact Dictionary.mem_of_get? hvalue

def Binding.Checked (row : Binding) : Prop := ∀ e ∈ row.entries, e.2.check = .ok ()

def Answer.Checked : Answer → Prop
  | .solutions _ rows => ∀ row ∈ rows, row.Checked
  | .boolean _ => True
  | .graph ts => ∀ t ∈ ts, t.check = .ok ()

variable {s : Store}

theorem Store.check_of_mem_terms (hs : ∀ t ∈ s.triples, t.check = .ok ()) {c : Term}
    (hc : c ∈ s.terms) : c.check = .ok () := by
  obtain ⟨t, ht, hc⟩ := List.mem_flatMap.1 hc
  exact Triple.check_iff_terms.1 (hs t ht) c hc

theorem Term.Written.of_check {c : Term} (h : c.check = .ok ()) : c.Written := by
  cases c with
  | var name => trivial
  | _ => exact h

theorem Term.Written.check {c : Term} (h : c.Written) (hc : c.isVar = false) :
    c.check = .ok () := by
  cases c with
  | var name => cases hc
  | _ => exact h

theorem Term.Written.substitute {c : Term} (hc : c.Written) {row : Binding}
    (hrow : row.Checked) : (c.substitute row).Written := by
  cases c with
  | var name =>
    cases hvalue : row.get? name with
    | none => simp [Term.substitute, hvalue, Written]
    | some value =>
      have hcheck := hrow _ (Dictionary.mem_of_get? hvalue)
      simpa [Term.substitute, hvalue] using of_check hcheck
  | _ => exact hc

theorem TriplePattern.instantiate?_eq_some_iff {p : TriplePattern} {row : Binding} {t : Triple} :
    p.instantiate? row = some t ↔
      p.subject.substitute row = .iri t.subject ∧ p.predicate.substitute row = .iri t.predicate ∧
        p.object.substitute row = t.object ∧ t.object.isVar = false := by
  obtain ⟨s, q, o⟩ := t
  unfold instantiate?
  split <;> grind [Term.isVar]

theorem check_of_instantiate? {p : TriplePattern} (hp : ∀ c ∈ p.terms, c.Written) {row : Binding}
    (hrow : row.Checked) {t : Triple}
    (h : p.instantiate? row = some t) : t.check = .ok () := by
  obtain ⟨hsubject, hpredicate, hobject, hvar⟩ := TriplePattern.instantiate?_eq_some_iff.1 h
  have hterms : ∀ c ∈ p.terms, (c.substitute row).Written := fun c hc => (hp c hc).substitute hrow
  simp only [TriplePattern.terms, List.forall_mem_cons, hsubject, hpredicate, hobject] at hterms
  exact Triple.check_eq_ok_iff.2 ⟨hterms.1, hterms.2.1, hterms.2.2.1.check hvar⟩

theorem checked_construct {template : List TriplePattern}
    (htemplate : PatternsWritten template) {rows : List Binding}
    (hrows : ∀ row ∈ rows, row.Checked) : ∀ t ∈ construct template rows, t.check = .ok () := by
  intro t ht
  obtain ⟨row, hrow, ht⟩ := List.mem_flatMap.1 (List.mem_eraseDups.1 ht)
  obtain ⟨p, hp, ht⟩ := List.mem_filterMap.1 ht
  exact check_of_instantiate? (htemplate p hp) (hrows row hrow) ht

theorem describe_subset (s : Store) (resources : List Term) (rows : List Binding) :
    describe s resources rows ⊆ s.triples := by
  intro t ht
  obtain ⟨i, -, ht⟩ := List.mem_flatMap.1 (List.mem_eraseDups.1 ht)
  exact List.mem_of_mem_filter ht

/-- From a store that can be written come answers that can be written; only the constants of a
template may do harm. -/
theorem Query.checked_execute {q : Query} (hs : ∀ t ∈ s.triples, t.check = .ok ())
    (hq : q.form.TemplateWritten) : (q.execute s).Checked := by
  have hsolve : ∀ row ∈ s.solve q.group, row.Checked :=
    fun row hrow e he => Store.check_of_mem_terms hs (s.covers_solve q.group row hrow e he)
  have hpage : ∀ row ∈ q.page (s.solve q.group), row.Checked :=
    fun row hrow => hsolve row (q.modifiers.apply_subset _ _ hrow)
  unfold Query.execute
  split
  next p hform =>
    intro row hrow e he
    obtain ⟨wide, hwide, rfl⟩ := List.mem_map.1 hrow
    exact hsolve wide (q.modifiers.apply_subset _ _ hwide) e (mem_of_mem_narrow he)
  next => trivial
  next template hform => exact checked_construct (hq template hform) hpage
  next resources hform => exact fun t ht => hs t (describe_subset s resources _ ht)

end LinkedRaces
