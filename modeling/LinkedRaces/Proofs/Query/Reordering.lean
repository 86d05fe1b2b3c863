import LinkedRaces.Proofs.Query.Algebra
import Mathlib.Data.Multiset.Bind

/-!
The order of the patterns and the order of the store decide the order of the rows only. As maps from
variables to values, the rows are products of the matches of single patterns, and products commute.
Optional parts may hold optional parts of their own here, to any depth.
-/

namespace LinkedRaces

/-- What a row says, whatever the order in which its variables were bound. -/
abbrev Valuation := String → Option Term

namespace Valuation

def Compatible (f g : Valuation) : Prop := ∀ k v w, f k = some v → g k = some w → v = w

def union (f g : Valuation) : Valuation := fun k => (f k).or (g k)

open Classical in
noncomputable def merge? (f g : Valuation) : Option Valuation :=
  if f.Compatible g then some (f.union g) else none

theorem merge?_eq_some {f g h : Valuation} : merge? f g = some h ↔ f.Compatible g ∧ f.union g = h := by
  unfold merge?
  split <;> simp_all

theorem Compatible.symm {f g : Valuation} (h : f.Compatible g) : g.Compatible f :=
  fun k v w hv hw => (h k w v hw hv).symm

theorem compatible_union {f g h : Valuation} (hgh : g.Compatible h) :
    f.Compatible (g.union h) ↔ f.Compatible g ∧ f.Compatible h := by
  constructor
  · intro hf
    refine ⟨fun k v w hv hw => hf k v w hv (by simp [union, hw]), fun k v w hv hw => ?_⟩
    cases hg : g k with
    | none => exact hf k v w hv (by simp [union, hg, hw])
    | some u => exact (hf k v u hv (by simp [union, hg])).trans (hgh k u w hg hw)
  · rintro ⟨hg, hh⟩ k v w hv hw
    rcases Option.or_eq_some_iff.1 hw with hw | ⟨-, hw⟩
    · exact hg k v w hv hw
    · exact hh k v w hv hw

theorem union_left_comm {f g : Valuation} (hfg : f.Compatible g) (h : Valuation) :
    f.union (g.union h) = g.union (f.union h) := by
  funext k
  simp only [union]
  cases hf : f k with
  | none => simp
  | some v =>
    cases hg : g k with
    | none => simp
    | some w => simp [hfg k v w hf hg]

theorem merge?_left_comm (f g h : Valuation) :
    (merge? g h).bind f.merge? = (merge? f h).bind g.merge? := by
  have himp (f g k : Valuation) (hk : (merge? g h).bind f.merge? = some k) :
      (merge? f h).bind g.merge? = some k := by
    obtain ⟨gh, hgh, hk⟩ := Option.bind_eq_some_iff.1 hk
    obtain ⟨hcgh, rfl⟩ := merge?_eq_some.1 hgh
    obtain ⟨hcf, rfl⟩ := merge?_eq_some.1 hk
    obtain ⟨hcfg, hcfh⟩ := (compatible_union hcgh).1 hcf
    rw [merge?_eq_some.2 ⟨hcfh, rfl⟩, Option.bind_some, union_left_comm hcfg]
    exact merge?_eq_some.2 ⟨(compatible_union hcfh).2 ⟨hcfg.symm, hcgh⟩, rfl⟩
  exact Option.ext fun k => ⟨himp f g k, himp g f k⟩

end Valuation

theorem Binding.map_merge? (m n : Binding) :
    (m.merge? n).map Dictionary.get? = Valuation.merge? m.get? n.get? := by
  have hunion : (m.union n).get? = Valuation.union m.get? n.get? :=
    funext (Dictionary.get?_union m n)
  by_cases h : m.Compatible n
  · rw [merge?, if_pos h, Option.map_some, hunion]
    exact (Valuation.merge?_eq_some.2 ⟨h, rfl⟩).symm
  · rw [merge?, if_neg h, Option.map_none, Valuation.merge?]
    exact (if_neg h).symm

namespace Store

noncomputable def product (as bs : Multiset Valuation) : Multiset Valuation :=
  as.bind fun f => bs.filterMap f.merge?

instance : LeftCommutative product where
  left_comm as bs cs := by
    simp only [product, Multiset.filterMap_bind, Multiset.filterMap_filterMap]
    rw [Multiset.bind_bind]
    simp only [Valuation.merge?_left_comm]

def valuations (s : Store) (p : TriplePattern) : Multiset Valuation :=
  Multiset.map Dictionary.get? (s.triples.filterMap p.solution? : Multiset Binding)

theorem solutions_cons (s : Store) (p : TriplePattern) (ps : List TriplePattern) :
    s.solutions (p :: ps) =
      (s.triples.filterMap p.solution?).flatMap fun m => (s.solutions ps).filterMap m.merge? := by
  have hcons (i : Fin s.triples.length) (is : List (Fin s.triples.length)) :
      s.solution? (p :: ps) (i :: is) =
        (p.solution? (s.triples.get i)).bind fun m => (s.solution? ps is).bind m.merge? := rfl
  rw [solutions, List.length_cons, choices, List.filterMap_flatMap, filterMap_triples,
    List.filterMap_eq_flatMap_toList, List.flatMap_assoc]
  refine List.flatMap_congr fun i _ => ?_
  rw [List.filterMap_map]
  simp only [Function.comp_def, hcons]
  cases p.solution? (s.triples.get i) with
  | none => simp
  | some m => simp [solutions, List.filterMap_filterMap]

theorem map_solutions (s : Store) (ps : List TriplePattern) :
    Multiset.map Dictionary.get? (s.solutions ps : Multiset Binding) =
      (ps.map s.valuations).foldr product {fun _ => none} := by
  induction ps with
  | nil => rfl
  | cons p ps ih =>
    rw [List.map_cons, List.foldr_cons, ← ih, solutions_cons, ← Multiset.coe_bind,
      Multiset.map_bind, product, valuations, Multiset.bind_map]
    refine Multiset.bind_congr fun m _ => ?_
    rw [← Multiset.filterMap_coe, Multiset.map_filterMap, Multiset.filterMap_map]
    exact congrArg (Multiset.filterMap · _) (funext fun n => Binding.map_merge? m n)

variable {s s' : Store}

theorem valuations_perm (hs : s.triples.Perm s'.triples) (p : TriplePattern) :
    s.valuations p = s'.valuations p :=
  congrArg (Multiset.map _) (Multiset.coe_eq_coe.2 (hs.filterMap _))

theorem map_solutions_perm (hs : s.triples.Perm s'.triples) {ps qs : List TriplePattern}
    (hps : ps.Perm qs) :
    Multiset.map Dictionary.get? (s.solutions ps : Multiset Binding) =
      Multiset.map Dictionary.get? (s'.solutions qs : Multiset Binding) := by
  rw [map_solutions, map_solutions, funext (valuations_perm hs)]
  exact (hps.map _).foldr_eq _

end Store

theorem Expression.value?_congr {r r' : Binding} (h : r.get? = r'.get?) (e : Expression) :
    e.value? r = e.value? r' := by
  induction e with
  | var name => simp only [value?, h]
  | bound name => simp only [value?, Dictionary.contains, h]
  | const t => rfl
  | _ => simp only [value?, *]

theorem passesAll_congr {r r' : Binding} (h : r.get? = r'.get?) (filters : List Expression) :
    passesAll filters r = passesAll filters r' := by
  simp only [passesAll, Expression.holds, Expression.value?_congr h]

def Binding.Alike (r r' : Binding) : Prop := r.Ground ∧ r.get? = r'.get?

namespace Store

open Binding

variable {s s' : Store}

theorem rel_alike_iff {rows rows' : List Binding} :
    Multiset.Rel Alike (rows : Multiset Binding) rows' ↔
      (∀ r ∈ rows, r.Ground) ∧ (rows.map Dictionary.get?).Perm (rows'.map Dictionary.get?) := by
  rw [← Multiset.coe_eq_coe, ← Multiset.map_coe, ← Multiset.map_coe, ← Multiset.rel_eq,
    Multiset.rel_map]
  constructor
  · intro h
    refine ⟨fun r hr => ?_, h.mono fun _ _ _ _ hab => hab.2⟩
    obtain ⟨r', -, hrr'⟩ := Multiset.exists_mem_of_rel_of_mem h (Multiset.mem_coe.2 hr)
    exact hrr'.1
  · rintro ⟨hground, h⟩
    exact h.mono fun r hr _ _ hrr' => ⟨hground r (Multiset.mem_coe.1 hr), hrr'⟩

theorem ground_joinAll (hs : s.Ground) (ps : List TriplePattern) {row : Binding}
    (hrow : row.Ground) : ∀ r ∈ s.joinAll ps [row], r.Ground := by
  intro r hr
  rw [joinAll_eq hs ps hrow] at hr
  obtain ⟨m, hm, hr⟩ := List.mem_filterMap.1 hr
  exact hrow.merge? (ground_solutions hs ps m hm) hr

theorem map_joinAll (hs : s.Ground) (ps : List TriplePattern) {row : Binding} (hrow : row.Ground) :
    Multiset.map Dictionary.get? (s.joinAll ps [row] : Multiset Binding) =
      (Multiset.map Dictionary.get? (s.solutions ps : Multiset Binding)).filterMap
        (Valuation.merge? row.get?) := by
  rw [joinAll_eq hs ps hrow, ← Multiset.filterMap_coe, Multiset.map_filterMap,
    Multiset.filterMap_map]
  exact congrArg (Multiset.filterMap · _) (funext fun n => map_merge? row n)

theorem rel_joinAll (hs : s.Ground) (hstore : s.triples.Perm s'.triples)
    {ps qs : List TriplePattern} (hps : ps.Perm qs) {row row' : Binding} (hrow : row.Alike row') :
    Multiset.Rel Alike (s.joinAll ps [row] : Multiset Binding) (s'.joinAll qs [row']) := by
  have hs' : s'.Ground := fun t ht => hs t (hstore.mem_iff.2 ht)
  have hrow' : row'.Ground := fun k v hv => hrow.1 k v (hrow.2 ▸ hv)
  refine rel_alike_iff.2 ⟨ground_joinAll hs ps hrow.1, Multiset.coe_eq_coe.1 ?_⟩
  rw [← Multiset.map_coe, ← Multiset.map_coe, map_joinAll hs ps hrow.1, map_joinAll hs' qs hrow',
    map_solutions_perm hstore hps, hrow.2]

theorem rel_filter {rows rows' : Multiset Binding} (h : Multiset.Rel Alike rows rows')
    (filters : List Expression) :
    Multiset.Rel Alike (rows.filter fun r => passesAll filters r)
      (rows'.filter fun r => passesAll filters r) := by
  induction h with
  | zero => exact .zero
  | cons hrow _ ih =>
    rw [Multiset.filter_cons, Multiset.filter_cons, passesAll_congr hrow.2]
    refine Multiset.Rel.add ?_ ih
    split
    · exact Multiset.Rel.zero.cons hrow
    · exact .zero

end Store

inductive NestedGroup
  | mk (required : List TriplePattern) (optionals : List NestedGroup) (filters : List Expression)

inductive NestedGroup.Reordered : NestedGroup → NestedGroup → Prop
  | mk {ps qs : List TriplePattern} {gs hs : List NestedGroup} (filters : List Expression)
    (required : ps.Perm qs) (optionals : List.Forall₂ Reordered gs hs) :
    Reordered ⟨ps, gs, filters⟩ ⟨qs, hs, filters⟩

namespace Store

def orRow (row : Binding) : List Binding → List Binding
  | [] => [row]
  | found => found

mutual

def solveFrom (s : Store) : NestedGroup → Binding → List Binding
  | ⟨required, optionals, filters⟩, row =>
    (s.leftJoinAll optionals (s.joinAll required [row])).filter (passesAll filters)

def leftJoinAll (s : Store) : List NestedGroup → List Binding → List Binding
  | [], rows => rows
  | g :: gs, rows => s.leftJoinAll gs (rows.flatMap fun row => orRow row (s.solveFrom g row))

end

open Binding

variable {s s' : Store}

theorem rel_orRow {row row' : Binding} (hrow : row.Alike row') {found found' : List Binding}
    (h : Multiset.Rel Alike (found : Multiset Binding) found') :
    Multiset.Rel Alike (orRow row found : Multiset Binding) (orRow row' found') := by
  cases found with
  | nil =>
    obtain rfl : found' = [] := by simpa using Multiset.rel_zero_left.1 h
    exact Multiset.Rel.zero.cons hrow
  | cons r rs =>
    cases found' with
    | nil => exact absurd (Multiset.rel_zero_right.1 h) (by simp)
    | cons r' rs' => exact h

mutual

theorem rel_solveFrom (hs : s.Ground) (hstore : s.triples.Perm s'.triples) :
    ∀ {g g' : NestedGroup}, g.Reordered g' → ∀ {row row' : Binding}, row.Alike row' →
      Multiset.Rel Alike (s.solveFrom g row : Multiset Binding) (s'.solveFrom g' row')
  | ⟨_, _, _⟩, _, .mk filters required optionals, _, _, hrow => by
    have hfound := rel_leftJoinAll hs hstore optionals (rel_joinAll hs hstore required hrow)
    simpa only [solveFrom, Multiset.filter_coe, Bool.decide_eq_true] using
      rel_filter hfound filters

theorem rel_leftJoinAll (hs : s.Ground) (hstore : s.triples.Perm s'.triples) :
    ∀ {gs gs' : List NestedGroup}, List.Forall₂ NestedGroup.Reordered gs gs' →
      ∀ {rows rows' : List Binding}, Multiset.Rel Alike (rows : Multiset Binding) rows' →
        Multiset.Rel Alike (s.leftJoinAll gs rows : Multiset Binding) (s'.leftJoinAll gs' rows')
  | [], _, .nil, _, _, hrows => hrows
  | _ :: _, _, .cons hg hgs, rows, rows', hrows => by
    refine rel_leftJoinAll hs hstore hgs ?_
    rw [← Multiset.coe_bind, ← Multiset.coe_bind]
    exact Multiset.rel_bind (fun _ _ hrow => rel_orRow hrow (rel_solveFrom hs hstore hg hrow)) hrows

end

end Store

def Block.nested (b : Block) : NestedGroup := ⟨b.required, [], b.filters⟩

def Group.nested (g : Group) : NestedGroup := ⟨g.required, g.optionals.map Block.nested, g.filters⟩

structure Block.Reordered (b c : Block) : Prop where
  required : b.required.Perm c.required
  filters : b.filters = c.filters

/-- The patterns in another order, here and in the blocks; the blocks keep their order. -/
structure Group.Reordered (g h : Group) : Prop where
  required : g.required.Perm h.required
  optionals : List.Forall₂ Block.Reordered g.optionals h.optionals
  filters : g.filters = h.filters

theorem Block.Reordered.nested {b c : Block} (h : b.Reordered c) : b.nested.Reordered c.nested := by
  rw [Block.nested, Block.nested, h.filters]
  exact .mk _ h.required .nil

theorem Group.Reordered.nested {g h : Group} (hgh : g.Reordered h) :
    g.nested.Reordered h.nested := by
  rw [Group.nested, Group.nested, hgh.filters]
  refine .mk _ hgh.required ?_
  rw [List.forall₂_map_left_iff, List.forall₂_map_right_iff]
  exact hgh.optionals.imp fun _ _ => Block.Reordered.nested

namespace Store

open Binding

variable {s s' : Store}

theorem foldl_leftJoin_eq_leftJoinAll (s : Store) (bs : List Block) (rows : List Binding) :
    bs.foldl (fun rows b => s.leftJoin b rows) rows =
      s.leftJoinAll (bs.map Block.nested) rows := by
  induction bs generalizing rows with
  | nil => rfl
  | cons b bs ih => exact ih (s.leftJoin b rows)

theorem solve_eq_solveFrom (s : Store) (g : Group) : s.solve g = s.solveFrom g.nested .empty := by
  rw [solve_eq, foldl_leftJoin_eq_leftJoinAll]
  rfl

theorem perm_solveFrom (hs : s.Ground) (hstore : s.triples.Perm s'.triples) {g g' : NestedGroup}
    (hg : g.Reordered g') :
    ((s.solveFrom g .empty).map Dictionary.get?).Perm
      ((s'.solveFrom g' .empty).map Dictionary.get?) :=
  (rel_alike_iff.1 (rel_solveFrom hs hstore hg ⟨ground_empty, rfl⟩)).2

/-- Stores with the same triples, and groups with the same patterns, give the same rows equally
often, as maps; also for groups with optional parts inside of optional parts. -/
theorem rows_perm (hs : s.Ground) (hstore : s.triples.Perm s'.triples) :
    (∀ g g' : Group, g.Reordered g' →
      ((s.solve g).map Dictionary.get?).Perm ((s'.solve g').map Dictionary.get?)) ∧
    ∀ g g' : NestedGroup, g.Reordered g' →
      ((s.solveFrom g .empty).map Dictionary.get?).Perm
        ((s'.solveFrom g' .empty).map Dictionary.get?) := by
  refine ⟨fun g g' hg => ?_, fun g g' hg => perm_solveFrom hs hstore hg⟩
  rw [solve_eq_solveFrom, solve_eq_solveFrom]
  exact perm_solveFrom hs hstore hg.nested

theorem rows_perm_races :
    let p : TriplePattern := ⟨.var "r", .iri Vocabulary.rdfType, .var "c"⟩
    let q : TriplePattern := ⟨.var "r", .iri (Vocabulary.schemaName "name"), .var "n"⟩
    let g : Group := ⟨[p, q], [⟨[q, p], []⟩], []⟩
    let h : Group := ⟨[q, p], [⟨[p, q], []⟩], []⟩
    let deep (a b : TriplePattern) : NestedGroup := ⟨[p], [⟨[q], [⟨[a, b], [], []⟩], []⟩], []⟩
    let store : Store := ⟨races.triples.reverse⟩
    races.Ground ∧ races.triples.Perm store.triples ∧ g.Reordered h ∧
      (deep p q).Reordered (deep q p) ∧
      ((races.solve g).map Dictionary.get?).Perm ((store.solve h).map Dictionary.get?) ∧
      ((races.solveFrom (deep p q) .empty).map Dictionary.get?).Perm
        ((store.solveFrom (deep q p) .empty).map Dictionary.get?) := by
  intro p q g h deep store
  have hground : races.Ground := by
    simp only [Ground, races, List.forall_mem_cons]
    exact ⟨rfl, rfl, rfl, rfl, List.forall_mem_nil _⟩
  have hstore : races.triples.Perm store.triples := (List.reverse_perm _).symm
  have hg : g.Reordered h := ⟨.swap .., .cons ⟨.swap .., rfl⟩ .nil, rfl⟩
  have hdeep : (deep p q).Reordered (deep q p) :=
    .mk _ (.refl _) (.cons (.mk _ (.refl _) (.cons (.mk _ (.swap ..) .nil) .nil)) .nil)
  exact ⟨hground, hstore, hg, hdeep, (rows_perm hground hstore).1 g h hg,
    (rows_perm hground hstore).2 _ _ hdeep⟩

end Store

end LinkedRaces
