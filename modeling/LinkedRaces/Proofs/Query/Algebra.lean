import LinkedRaces.Proofs.Dictionary
import LinkedRaces.Query.Matching
import Mathlib.Data.List.FinRange

/-!
The algebra of groups. Each pattern is matched on its own, against one triple, with no row before
it; rows are consistent unions of such matches. The evaluation from the top, which substitutes a row
into the next pattern, gives the same rows in the same order.
-/

namespace LinkedRaces

namespace Binding

def merge? (m n : Binding) : Option Binding := if m.Compatible n then some (m.union n) else none

def mergeAll? : List (Option Binding) → Option Binding
  | [] => some .empty
  | m :: ms => m.bind fun m => (mergeAll? ms).bind m.merge?

theorem merge?_eq_some {m n k : Binding} :
    merge? m n = some k ↔ m.Compatible n ∧ m.union n = k := by
  unfold merge?
  split <;> simp_all

theorem merge?_empty (m : Binding) : merge? m .empty = some m := by
  have h : m.Compatible .empty := by
    rintro k v w - hw
    simp at hw
  simp [merge?, h]

theorem empty_merge? (m : Binding) : merge? .empty m = some m := by
  have h : Dictionary.Compatible .empty m := by
    rintro k v w hv -
    simp at hv
  simp [merge?, h]

theorem merge?_assoc (m n k : Binding) :
    (merge? m n).bind (merge? · k) = (merge? n k).bind (merge? m) := by
  by_cases hmn : m.Compatible n
  · by_cases hnk : n.Compatible k
    · have hiff : (m.union n).Compatible k ↔ m.Compatible (n.union k) := by
        rw [Dictionary.compatible_union_left hmn, Dictionary.compatible_union_right hnk]
        simp [hmn, hnk]
      simp only [merge?, if_pos hmn, if_pos hnk, Option.bind_some, hiff, Dictionary.union_assoc]
    · have hno : ¬ (m.union n).Compatible k := fun h =>
        hnk ((Dictionary.compatible_union_left hmn).1 h).2
      simp [merge?, hmn, hnk, hno]
  · by_cases hnk : n.Compatible k
    · have hno : ¬ m.Compatible (n.union k) := fun h =>
        hmn ((Dictionary.compatible_union_right hnk).1 h).1
      simp [merge?, hmn, hnk, hno]
    · simp [merge?, hmn, hnk]

theorem mergeAll?_cons_bind (m : Option Binding) (ms : List (Option Binding)) (r : Binding) :
    (mergeAll? (m :: ms)).bind r.merge? =
      (m.bind r.merge?).bind fun r => (mergeAll? ms).bind r.merge? := by
  cases m with
  | none => rfl
  | some m =>
    cases hms : mergeAll? ms with
    | none => simp [mergeAll?, hms]
    | some n => simpa [mergeAll?, hms] using (merge?_assoc r m n).symm

end Binding

open Binding

def Term.solution? (p value : Term) : Option Binding :=
  match p with
  | .var name => some (Dictionary.empty.insert name value)
  | p => if p = value then some .empty else none

/-- The values of the variables of `p` that make it the triple `t`. -/
def TriplePattern.solution? (p : TriplePattern) (t : Triple) : Option Binding :=
  mergeAll? [p.subject.solution? (.iri t.subject), p.predicate.solution? (.iri t.predicate),
    p.object.solution? t.object]

namespace Store

/-- All ways to choose `n` positions, in lexicographic order. -/
def choices (s : Store) : Nat → List (List (Fin s.triples.length))
  | 0 => [[]]
  | n + 1 => (List.finRange s.triples.length).flatMap fun i => (s.choices n).map (i :: ·)

def solution? (s : Store) (ps : List TriplePattern) (is : List (Fin s.triples.length)) :
    Option Binding :=
  mergeAll? (List.zipWith (fun p i => p.solution? (s.triples.get i)) ps is)

def solutions (s : Store) (ps : List TriplePattern) : List Binding :=
  (s.choices ps.length).filterMap (s.solution? ps)

/-- The row with each solution of the block that agrees with it and passes the filters, or the row
itself if there is none. -/
def optionally (s : Store) (b : Block) (m : Binding) : List Binding :=
  match ((s.solutions b.required).filterMap m.merge?).filter (passesAll b.filters) with
  | [] => [m]
  | rows => rows

def meaning (s : Store) (g : Group) : List Binding :=
  (g.optionals.foldl (fun rows b => rows.flatMap (s.optionally b)) (s.solutions g.required)).filter
    (passesAll g.filters)

end Store

/-- No value is a variable, so that a substitution leaves no new variable. -/
def Binding.Ground (m : Binding) : Prop := ∀ k v, m.get? k = some v → v.isVar = false

def Binding.Extends (m n : Binding) : Prop := ∀ k v, m.get? k = some v → n.get? k = some v

namespace Binding

theorem ground_empty : Ground .empty := by
  intro k v h
  simp at h

theorem Ground.insert {m : Binding} (hm : m.Ground) {value : Term} (hv : value.isVar = false)
    (name : String) : Ground (m.insert name value) := by
  intro k v h
  rw [Dictionary.get?_insert] at h
  split at h
  · obtain rfl := Option.some.inj h
    exact hv
  · exact hm k v h

theorem Ground.merge? {m n k : Binding} (hm : m.Ground) (hn : n.Ground)
    (h : Binding.merge? m n = some k) : k.Ground := by
  obtain ⟨-, rfl⟩ := merge?_eq_some.1 h
  intro name v hv
  rw [Dictionary.get?_union, Option.or_eq_some_iff] at hv
  rcases hv with hv | ⟨-, hv⟩
  · exact hm name v hv
  · exact hn name v hv

theorem Ground.mergeAll? {ms : List (Option Binding)} (h : ∀ m n, m ∈ ms → m = some n → n.Ground)
    {k : Binding} (hk : Binding.mergeAll? ms = some k) : k.Ground := by
  induction ms generalizing k with
  | nil =>
    obtain rfl := Option.some.inj hk
    exact ground_empty
  | cons m ms ih =>
    obtain ⟨n, hn, hk⟩ := Option.bind_eq_some_iff.1 hk
    obtain ⟨l, hl, hk⟩ := Option.bind_eq_some_iff.1 hk
    have hrest := ih (fun a b ha hb => h a b (List.mem_cons_of_mem m ha) hb) hl
    exact (h m n List.mem_cons_self hn).merge? hrest hk

theorem Extends.trans {l m n : Binding} (h₁ : l.Extends m) (h₂ : m.Extends n) : l.Extends n :=
  fun k v h => h₂ k v (h₁ k v h)

theorem extends_of_merge? {m n k : Binding} (h : merge? m n = some k) : m.Extends k := by
  obtain ⟨-, rfl⟩ := merge?_eq_some.1 h
  intro name v hv
  simp [hv]

theorem merge?_single (r : Binding) (name : String) (value : Term) :
    r.merge? (Dictionary.empty.insert name value) =
      match r.get? name with
      | some known => if known = value then some r else none
      | none => some (r.insert name value) := by
  cases hr : r.get? name with
  | none =>
    have hc : r.Compatible (Dictionary.empty.insert name value) := by
      rw [Dictionary.compatible_single, hr]
      rintro _ ⟨⟩
    simp only [merge?, if_pos hc, Dictionary.union_single_of_none hr]
  | some known =>
    have hc : r.Compatible (Dictionary.empty.insert name value) ↔ known = value := by
      rw [Dictionary.compatible_single, hr]
      simp
    simp only [merge?, hc, Dictionary.union_single_of_some hr]

end Binding

theorem Term.matchValue?_substitute {row r : Binding} (hrow : row.Ground) (hr : row.Extends r)
    (p value : Term) :
    (p.substitute row).matchValue? value r = (p.solution? value).bind r.merge? := by
  cases p with
  | var name =>
    rw [Term.solution?, Option.bind_some, merge?_single]
    cases hname : row.get? name with
    | none =>
      have hvar : (Term.var name).substitute row = .var name := by simp [substitute, hname]
      exact congrArg (Term.matchValue? · value r) hvar
    | some known =>
      have hvar := hrow name known hname
      simp only [substitute, hname, Option.getD_some, hr name known hname]
      cases known with
      | var other => cases hvar
      | iri i => rfl
      | literal l => rfl
  | iri i =>
    simp only [substitute, matchValue?, solution?]
    split <;> simp [merge?_empty]
  | literal l =>
    simp only [substitute, matchValue?, solution?]
    split <;> simp [merge?_empty]

/-- Substituting a row and matching is matching alone and putting the results together. -/
theorem TriplePattern.matchTriple?_substitute {row : Binding} (hrow : row.Ground)
    (p : TriplePattern) (t : Triple) :
    (p.substitute row).matchTriple? t row = (p.solution? t).bind row.merge? := by
  rw [solution?, mergeAll?_cons_bind, matchTriple?]
  rw [show (p.substitute row).subject = p.subject.substitute row from rfl,
    Term.matchValue?_substitute hrow fun _ _ h => h]
  refine Option.bind_congr fun r₁ h₁ => ?_
  obtain ⟨m₁, -, h₁⟩ := Option.bind_eq_some_iff.1 h₁
  have hr₁ := extends_of_merge? h₁
  rw [mergeAll?_cons_bind, show (p.substitute row).predicate = p.predicate.substitute row from rfl,
    Term.matchValue?_substitute hrow hr₁]
  refine Option.bind_congr fun r₂ h₂ => ?_
  obtain ⟨m₂, -, h₂⟩ := Option.bind_eq_some_iff.1 h₂
  have hr₂ := hr₁.trans (extends_of_merge? h₂)
  rw [mergeAll?_cons_bind, show (p.substitute row).object = p.object.substitute row from rfl,
    Term.matchValue?_substitute hrow hr₂]
  simp [mergeAll?, merge?_empty]

namespace Store

variable {s : Store}

def Ground (s : Store) : Prop := ∀ t ∈ s.triples, t.object.isVar = false

theorem ground_solution? {p : TriplePattern} {t : Triple} (ht : t.object.isVar = false)
    {m : Binding} (h : p.solution? t = some m) : m.Ground := by
  refine Ground.mergeAll? ?_ h
  have hterm : ∀ q value : Term, value.isVar = false → ∀ n, q.solution? value = some n →
      n.Ground := by
    intro q value hvalue n hn
    cases q with
    | var name =>
      obtain rfl := Option.some.inj hn
      exact ground_empty.insert hvalue name
    | _ =>
      simp only [Term.solution?, Option.ite_none_right_eq_some] at hn
      obtain rfl := Option.some.inj hn.2
      exact ground_empty
  intro m n hm hn
  simp only [List.mem_cons, List.not_mem_nil, or_false] at hm
  rcases hm with rfl | rfl | rfl
  · exact hterm _ _ rfl n hn
  · exact hterm _ _ rfl n hn
  · exact hterm _ _ ht n hn

theorem extend_eq {row : Binding} (hrow : row.Ground) (p : TriplePattern) :
    s.extend p row = s.triples.filterMap fun t => (p.solution? t).bind row.merge? := by
  simp only [extend, TriplePattern.matchTriple?_substitute hrow]

theorem ground_extend (hs : s.Ground) {row : Binding} (hrow : row.Ground) (p : TriplePattern) :
    ∀ r ∈ s.extend p row, r.Ground := by
  intro r hr
  rw [extend_eq hrow] at hr
  obtain ⟨t, ht, hr⟩ := List.mem_filterMap.1 hr
  obtain ⟨m, hm, hr⟩ := Option.bind_eq_some_iff.1 hr
  exact hrow.merge? (ground_solution? (hs t ht) hm) hr

theorem filterMap_triples (s : Store) (f : Triple → Option Binding) :
    s.triples.filterMap f =
      (List.finRange s.triples.length).filterMap fun i => f (s.triples.get i) := by
  conv_lhs => rw [← List.map_get_finRange s.triples]
  exact List.filterMap_map

theorem joinAll_flatMap (s : Store) (ps : List TriplePattern) (rows : List Binding) :
    s.joinAll ps rows = rows.flatMap fun row => s.joinAll ps [row] := by
  induction ps generalizing rows with
  | nil => simp [joinAll]
  | cons p ps ih =>
    rw [joinAll_cons, ih, join, List.flatMap_assoc]
    refine List.flatMap_congr fun row _ => ?_
    rw [joinAll_cons, ih (s.join p [row]), join, List.flatMap_singleton]

/-- The patterns one after the other, from a row on, give the solutions that agree with the row. -/
theorem joinAll_eq (hs : s.Ground) (ps : List TriplePattern) {row : Binding} (hrow : row.Ground) :
    s.joinAll ps [row] = (s.solutions ps).filterMap row.merge? := by
  rw [solutions, List.filterMap_filterMap]
  induction ps generalizing row with
  | nil => simp [joinAll, choices, solution?, mergeAll?, merge?_empty]
  | cons p ps ih =>
    have hstep : s.joinAll (p :: ps) [row] = (s.extend p row).flatMap fun r =>
        (s.choices ps.length).filterMap fun is => (s.solution? ps is).bind r.merge? := by
      rw [joinAll_cons, joinAll_flatMap, join, List.flatMap_singleton]
      exact List.flatMap_congr fun r hr => ih (ground_extend hs hrow p r hr)
    rw [hstep, extend_eq hrow, filterMap_triples, List.filterMap_eq_flatMap_toList,
      List.flatMap_assoc, List.length_cons, choices, List.filterMap_flatMap]
    refine List.flatMap_congr fun i _ => ?_
    have hcons : ∀ is, (s.solution? (p :: ps) (i :: is)).bind row.merge? =
        ((p.solution? (s.triples.get i)).bind row.merge?).bind fun r =>
          (s.solution? ps is).bind r.merge? :=
      fun is => mergeAll?_cons_bind _ _ row
    rw [List.filterMap_map]
    simp only [Function.comp_def, hcons]
    cases (p.solution? (s.triples.get i)).bind row.merge? with
    | none => simp
    | some r => simp

theorem ground_solutions (hs : s.Ground) (ps : List TriplePattern) :
    ∀ m ∈ s.solutions ps, m.Ground := by
  intro m hm
  obtain ⟨is, -, hm⟩ := List.mem_filterMap.1 hm
  refine Ground.mergeAll? (fun a b ha hb => ?_) hm
  obtain ⟨k, hk, rfl⟩ := List.mem_iff_getElem.1 ha
  rw [List.getElem_zipWith] at hb
  exact ground_solution? (hs _ (List.get_mem ..)) hb

theorem solveBlock_eq (hs : s.Ground) (b : Block) {row : Binding} (hrow : row.Ground) :
    s.solveBlock b row =
      ((s.solutions b.required).filterMap row.merge?).filter (passesAll b.filters) := by
  rw [solveBlock, joinAll_eq hs b.required hrow]

theorem ground_optionally (hs : s.Ground) (b : Block) {row : Binding} (hrow : row.Ground) :
    ∀ r ∈ s.optionally b row, r.Ground := by
  intro r hr
  unfold optionally at hr
  split at hr
  · obtain rfl := List.mem_singleton.1 hr
    exact hrow
  · obtain ⟨n, hn, hr⟩ := List.mem_filterMap.1 (List.mem_filter.1 hr).1
    exact hrow.merge? (ground_solutions hs b.required n hn) hr

theorem leftExtend_eq (hs : s.Ground) (b : Block) {row : Binding} (hrow : row.Ground) :
    s.leftExtend b row = s.optionally b row := by
  have hblock := solveBlock_eq hs b hrow
  exact congrArg (fun | [] => [row] | rows => rows) hblock

theorem foldl_leftJoin_eq (hs : s.Ground) (bs : List Block) {rows : List Binding}
    (h : ∀ r ∈ rows, r.Ground) :
    bs.foldl (fun rows b => s.leftJoin b rows) rows =
      bs.foldl (fun rows b => rows.flatMap (s.optionally b)) rows := by
  induction bs generalizing rows with
  | nil => rfl
  | cons b bs ih =>
    have hjoin : s.leftJoin b rows = rows.flatMap (s.optionally b) :=
      List.flatMap_congr fun r hr => leftExtend_eq hs b (h r hr)
    have hground : ∀ r ∈ rows.flatMap (s.optionally b), r.Ground := by
      intro r hr
      obtain ⟨m, hm, hr⟩ := List.mem_flatMap.1 hr
      exact ground_optionally hs b (h m hm) r hr
    rw [List.foldl_cons, List.foldl_cons, hjoin, ih hground]

/-- The evaluation of a group gives what the group means, row for row. -/
theorem solve_eq_meaning (hs : s.Ground) (g : Group) : s.solve g = s.meaning g := by
  have hrequired : s.joinAll g.required [.empty] = s.solutions g.required := by
    rw [joinAll_eq hs g.required ground_empty, funext empty_merge?, List.filterMap_some]
  rw [solve_eq, meaning, hrequired, foldl_leftJoin_eq hs g.optionals (ground_solutions hs g.required)]

def races : Store :=
  let race (n : String) : Iri := ⟨"http://example.org/" ++ n⟩
  ⟨[⟨race "1", Vocabulary.rdfType, .iri (Vocabulary.schemaName "Event")⟩,
    ⟨race "2", Vocabulary.rdfType, .iri (Vocabulary.schemaName "Event")⟩,
    ⟨race "1", Vocabulary.schemaName "name", .literal (.plain "5K")⟩,
    ⟨race "1", Vocabulary.schemaName "name", .literal (.plain "5K")⟩]⟩

def racesAndNames : Group :=
  ⟨[⟨.var "r", .iri Vocabulary.rdfType, .iri (Vocabulary.schemaName "Event")⟩],
    [⟨[⟨.var "r", .iri (Vocabulary.schemaName "name"), .var "n"⟩], []⟩], []⟩

theorem solve_races :
    races.Ground ∧ races.solve racesAndNames = races.meaning racesAndNames := by
  have hground : races.Ground := by
    simp only [Ground, races, List.forall_mem_cons]
    exact ⟨rfl, rfl, rfl, rfl, nofun⟩
  exact ⟨hground, solve_eq_meaning hground racesAndNames⟩

end Store

end LinkedRaces
