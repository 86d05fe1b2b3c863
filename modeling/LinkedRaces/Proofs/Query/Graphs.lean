import LinkedRaces.Proofs.Grouping
import LinkedRaces.Proofs.Query.Algebra
import LinkedRaces.Proofs.Query.Answers

/-!
Graphs as answers. Matching and instantiation undo each other: a row of a join turns every pattern
back into a stored triple, whatever the patterns and however their variables repeat. So a query that
constructs its own patterns answers with a part of the store, and a description with all that the
store says about its subjects.
-/

namespace LinkedRaces

open Binding

variable {s : Store} {row r : Binding}

theorem Binding.extends_merge?_right {m n k : Binding} (h : merge? m n = some k) : n.Extends k := by
  obtain ⟨hcompatible, rfl⟩ := merge?_eq_some.1 h
  intro name v hv
  rw [Dictionary.get?_union, hv]
  cases hm : m.get? name with
  | none => rfl
  | some w => rw [hcompatible name w v hm hv, Option.some_or]

theorem Term.substitute_of_extends {p value : Term} (hvalue : value.isVar = false)
    (h : p.substitute row = value) (hr : row.Extends r) : p.substitute r = value := by
  cases p with
  | var name =>
    cases hname : row.get? name with
    | none =>
      obtain rfl : Term.var name = value := by simpa [substitute, hname] using h
      cases hvalue
    | some known =>
      obtain rfl : known = value := by simpa [substitute, hname] using h
      simp [substitute, hr name known hname]
  | _ => exact h

theorem Term.substitute_solution? {p value : Term} (h : p.solution? value = some row) :
    p.substitute row = value := by
  cases p with
  | var name =>
    obtain rfl := Option.some.inj h
    simp [substitute]
  | _ => exact (Option.ite_none_right_eq_some.1 h).1

theorem TriplePattern.instantiate?_of_extends {p : TriplePattern} {t : Triple}
    (h : p.instantiate? row = some t) (hr : row.Extends r) : p.instantiate? r = some t := by
  obtain ⟨hs, hp, ho, hvar⟩ := instantiate?_eq_some_iff.1 h
  exact instantiate?_eq_some_iff.2 ⟨Term.substitute_of_extends rfl hs hr,
    Term.substitute_of_extends rfl hp hr, Term.substitute_of_extends hvar ho hr, hvar⟩

theorem TriplePattern.instantiate?_solution? {p : TriplePattern} {t : Triple}
    (ht : t.object.isVar = false) (h : p.solution? t = some row) :
    p.instantiate? row = some t := by
  obtain ⟨m₁, hs, h⟩ := Option.bind_eq_some_iff.1 h
  obtain ⟨n₁, h₁, hrow⟩ := Option.bind_eq_some_iff.1 h
  obtain ⟨m₂, hp, h₁⟩ := Option.bind_eq_some_iff.1 h₁
  obtain ⟨n₂, h₂, hn₁⟩ := Option.bind_eq_some_iff.1 h₁
  obtain ⟨m₃, ho, h₂⟩ := Option.bind_eq_some_iff.1 h₂
  obtain ⟨n₃, -, hn₂⟩ := Option.bind_eq_some_iff.1 h₂
  have hn₁row := extends_merge?_right hrow
  have hm₂ := (extends_of_merge? hn₁).trans hn₁row
  have hm₃ := ((extends_of_merge? hn₂).trans (extends_merge?_right hn₁)).trans hn₁row
  exact instantiate?_eq_some_iff.2
    ⟨Term.substitute_of_extends rfl (Term.substitute_solution? hs) (extends_of_merge? hrow),
      Term.substitute_of_extends rfl (Term.substitute_solution? hp) hm₂,
      Term.substitute_of_extends ht (Term.substitute_solution? ho) hm₃, ht⟩

def Store.Instantiates (s : Store) (row : Binding) (p : TriplePattern) : Prop :=
  ∃ t ∈ s.triples, p.instantiate? row = some t

namespace Store

theorem Instantiates.mono {p : TriplePattern} (h : s.Instantiates row p) (hr : row.Extends r) :
    s.Instantiates r p :=
  let ⟨t, ht, hp⟩ := h
  ⟨t, ht, p.instantiate?_of_extends hp hr⟩

theorem instantiates_extend (hs : s.Ground) (hrow : row.Ground) {p : TriplePattern}
    (hr : r ∈ s.extend p row) : row.Extends r ∧ s.Instantiates r p := by
  rw [extend_eq hrow] at hr
  obtain ⟨t, ht, hr⟩ := List.mem_filterMap.1 hr
  obtain ⟨m, hm, hr⟩ := Option.bind_eq_some_iff.1 hr
  have hinstance := TriplePattern.instantiate?_solution? (hs t ht) hm
  exact ⟨extends_of_merge? hr, t, ht, p.instantiate?_of_extends hinstance (extends_merge?_right hr)⟩

theorem instantiates_joinAll (hs : s.Ground) (ps : List TriplePattern) (hrow : row.Ground)
    (hr : r ∈ s.joinAll ps [row]) : row.Extends r ∧ ∀ p ∈ ps, s.Instantiates r p := by
  induction ps generalizing row with
  | nil =>
    obtain rfl := List.mem_singleton.1 hr
    exact ⟨fun _ _ h => h, List.forall_mem_nil _⟩
  | cons p ps ih =>
    rw [joinAll_cons, joinAll_flatMap, join, List.flatMap_singleton] at hr
    obtain ⟨next, hnext, hr'⟩ := List.mem_flatMap.1 hr
    obtain ⟨hextends, hp⟩ := instantiates_extend hs hrow hnext
    obtain ⟨hextends', hps⟩ := ih (ground_extend hs hrow p next hnext) hr'
    exact ⟨hextends.trans hextends', List.forall_mem_cons.2 ⟨hp.mono hextends', hps⟩⟩

theorem solve_of_isPlain (s : Store) {g : Group} (hg : g.isPlain) :
    s.solve g = s.joinAll g.required [.empty] := by
  obtain ⟨required, optionals, filters⟩ := g
  simp only [Group.isPlain, Bool.and_eq_true, List.isEmpty_iff] at hg
  obtain ⟨rfl, rfl⟩ := hg
  simp [solve_eq, passesAll]

end Store

theorem mem_construct {template : List TriplePattern} {rows : List Binding} {t : Triple} :
    t ∈ construct template rows ↔ ∃ row ∈ rows, ∃ p ∈ template, p.instantiate? row = some t := by
  simp [construct]

theorem mem_describedIris {resources : List Term} {rows : List Binding} {i : Iri} :
    i ∈ describedIris resources rows ↔ .iri i ∈ resources ∨ ∃ row ∈ rows, ∃ name,
      (resources = [] ∨ .var name ∈ resources) ∧ row.get? name = some (.iri i) := by
  have hiri (c : Term) : c.iri? = some i ↔ c = .iri i := by
    cases c <;> simp [Term.iri?]
  unfold describedIris
  split
  next hempty =>
    obtain rfl := List.isEmpty_iff.1 hempty
    simp only [List.mem_flatMap, List.mem_filterMap, hiri, List.not_mem_nil, false_or, true_or,
      true_and]
    refine exists_congr fun row => and_congr_right fun _ => ⟨?_, ?_⟩
    · rintro ⟨⟨name, _⟩, he, rfl⟩
      exact ⟨name, Dictionary.get?_of_mem he⟩
    · rintro ⟨name, hname⟩
      exact ⟨(name, .iri i), Dictionary.mem_of_get? hname, rfl⟩
  next hempty =>
    have hne : resources ≠ [] := by simpa using hempty
    simp only [List.mem_flatMap, hne, false_or]
    constructor
    · rintro ⟨c, hc, hi⟩
      cases c with
      | iri j =>
        obtain rfl := List.mem_singleton.1 hi
        exact .inl hc
      | var name =>
        obtain ⟨row, hrow, hvalue⟩ := List.mem_filterMap.1 hi
        obtain ⟨value, hname, hvalue⟩ := Option.bind_eq_some_iff.1 hvalue
        exact .inr ⟨row, hrow, name, hc, (hiri value).1 hvalue ▸ hname⟩
      | literal l => cases hi
    · rintro (hi | ⟨row, hrow, name, hc, hname⟩)
      · exact ⟨.iri i, hi, List.mem_singleton_self i⟩
      · refine ⟨.var name, hc, List.mem_filterMap.2 ⟨row, hrow, ?_⟩⟩
        rw [hname]
        rfl

theorem mem_describe {resources : List Term} {rows : List Binding} {t : Triple} :
    t ∈ describe s resources rows ↔
      t ∈ s.triples ∧ t.subject ∈ describedIris resources rows := by
  simp only [describe, Store.about, List.mem_eraseDups, List.mem_flatMap, List.mem_filter, beq_iff_eq]
  constructor
  · rintro ⟨i, hi, ht, rfl⟩
    exact ⟨ht, hi⟩
  · rintro ⟨ht, hi⟩
    exact ⟨t.subject, hi, ht, rfl⟩

/-- Graphs have no triple twice and only triples of the store. A query that constructs its own
patterns answers with just those that its page makes of them, and each row of the page makes a
triple of each pattern. A description has all triples about the IRIs that it lists, and about those
that a listed variable, or any variable if none is listed, has in a row of the page. -/
theorem Query.graph_of_store (hs : s.Ground) :
    (∀ q : Query, q.group.isPlain → q.form = .construct q.group.required →
      ∃ ts, q.execute s = .graph ts ∧ ts.Nodup ∧
        (∀ t, t ∈ ts ↔ t ∈ s.triples ∧ ∃ row ∈ q.page (s.solve q.group),
          ∃ p ∈ q.group.required, p.instantiate? row = some t) ∧
        ∀ row ∈ q.page (s.solve q.group), ∀ p ∈ q.group.required,
          ∃ t ∈ ts, p.instantiate? row = some t) ∧
    ∀ (q : Query) (resources : List Term), q.form = .describe resources →
      ∃ ts, q.execute s = .graph ts ∧ ts.Nodup ∧
        ∀ t, t ∈ ts ↔ t ∈ s.triples ∧
          (.iri t.subject ∈ resources ∨ ∃ row ∈ q.page (s.solve q.group), ∃ name,
            (resources = [] ∨ .var name ∈ resources) ∧
              row.get? name = some (.iri t.subject)) := by
  refine ⟨fun q hplain hform => ?_, fun q resources hform => ?_⟩
  · have hpage : ∀ row ∈ q.page (s.solve q.group), ∀ p ∈ q.group.required,
        s.Instantiates row p := by
      intro row hrow
      have hsolution := q.modifiers.apply_subset _ _ hrow
      rw [s.solve_of_isPlain hplain] at hsolution
      exact (Store.instantiates_joinAll hs q.group.required ground_empty hsolution).2
    refine ⟨construct q.group.required (q.page (s.solve q.group)), by simp [execute, hform],
      nodup_eraseDups _, fun t => ?_, fun row hrow p hp => ?_⟩
    · rw [mem_construct]
      refine ⟨?_, And.right⟩
      rintro ⟨row, hrow, p, hp, ht⟩
      obtain ⟨u, hu, hinstance⟩ := hpage row hrow p hp
      obtain rfl := Option.some.inj (ht.symm.trans hinstance)
      exact ⟨hu, row, hrow, p, hp, ht⟩
    · obtain ⟨t, -, ht⟩ := hpage row hrow p hp
      exact ⟨t, mem_construct.2 ⟨row, hrow, p, hp, ht⟩, ht⟩
  · refine ⟨describe s resources (q.page (s.solve q.group)), by simp [execute, hform],
      nodup_eraseDups _, fun t => ?_⟩
    rw [mem_describe, mem_describedIris]

theorem Query.graph_of_store_races :
    let ps : List TriplePattern := [⟨.var "r", .var "p", .iri (Vocabulary.schemaName "Event")⟩,
      ⟨.var "r", .iri (Vocabulary.schemaName "name"), .var "n"⟩]
    let events : Query := ⟨.construct ps, ⟨ps, [], []⟩, ⟨true, [⟨"n", false⟩], 5, 0⟩, .empty⟩
    let named : Query := ⟨.describe [.var "r"], ⟨ps, [], []⟩, ⟨false, [⟨"n", false⟩], 1, 1⟩, .empty⟩
    let race : Iri := ⟨"http://example.org/1"⟩
    (Store.races.Ground ∧ events.group.isPlain ∧ events.form = .construct events.group.required ∧
      named.form = .describe [.var "r"]) ∧
    (∃ ts, events.execute Store.races = .graph ts ∧
      ⟨race, Vocabulary.rdfType, .iri (Vocabulary.schemaName "Event")⟩ ∈ ts) ∧
    ∃ ts, named.execute Store.races = .graph ts ∧ ts.Nodup ∧
      ∀ t, t ∈ ts ↔ t ∈ Store.races.triples ∧ t.subject = race := by
  intro ps events named race
  have hground : Store.races.Ground := by
    simp only [Store.Ground, Store.races, List.forall_mem_cons]
    exact ⟨rfl, rfl, rfl, rfl, List.forall_mem_nil _⟩
  obtain ⟨hconstruct, hdescribe⟩ := graph_of_store hground
  have hevents : events.page (Store.races.solve events.group) =
      [Dictionary.ofList [("r", .iri race), ("p", .iri Vocabulary.rdfType),
        ("n", .literal (.plain "5K"))]] := by
    decide +kernel
  have hnamed : named.page (Store.races.solve named.group) =
      [Dictionary.ofList [("r", .iri race), ("p", .iri Vocabulary.rdfType),
        ("n", .literal (.plain "5K"))]] := by
    have hsorted : applyOrder named.modifiers.orderBy (Store.races.solve named.group) =
        Store.races.solve named.group :=
      List.mergeSort_of_pairwise (by decide +kernel)
    calc named.page (Store.races.solve named.group)
        = ((applyOrder named.modifiers.orderBy (Store.races.solve named.group)).drop 1).take 1 :=
          rfl
      _ = ((Store.races.solve named.group).drop 1).take 1 := by rw [hsorted]
      _ = _ := by decide +kernel
  refine ⟨⟨hground, rfl, rfl, rfl⟩, ?_, ?_⟩
  · obtain ⟨ts, hts, -, -, hpatterns⟩ := hconstruct events rfl rfl
    obtain ⟨t, ht, hinstance⟩ := hpatterns _ (hevents ▸ List.mem_singleton_self _) _
      List.mem_cons_self
    obtain rfl := Option.some.inj (hinstance.symm.trans (by rfl))
    exact ⟨ts, hts, ht⟩
  · obtain ⟨ts, hts, hnodup, hmem⟩ := hdescribe named [.var "r"] rfl
    refine ⟨ts, hts, hnodup, fun t => (hmem t).trans (and_congr_right fun _ => ?_)⟩
    rw [hnamed]
    have hsubject : (Dictionary.ofList [("r", Term.iri race), ("p", .iri Vocabulary.rdfType),
        ("n", .literal (.plain "5K"))]).get? "r" = some (.iri race) := by
      decide +kernel
    simp [hsubject, eq_comm]

end LinkedRaces
