import LinkedRaces.Proofs.Grouping
import LinkedRaces.Proofs.Query.Algebra
import LinkedRaces.Proofs.Query.Answers
import LinkedRaces.Proofs.Query.Pattern
import LinkedRaces.Proofs.Query.Pages
import Mathlib.Logic.Embedding.Basic

/-!
New names for variables. An embedding of the names gives each variable a name of its own, in the
query and in the rows alike. The renamed query has the renamed answer: rows keep their order and
the order of their variables, and booleans and graphs do not change.
-/

namespace LinkedRaces

namespace Dictionary

variable {β : Type} (f : String ↪ String)

def rename (d : Dictionary β) : Dictionary β where
  entries := d.entries.map fun e => (f e.1, e.2)
  nodup := by simpa [Function.comp_def] using d.nodup.map f.injective

theorem entries_rename (d : Dictionary β) :
    (d.rename f).entries = d.entries.map fun e => (f e.1, e.2) := rfl

@[simp] theorem get?_rename (d : Dictionary β) (k : String) :
    (d.rename f).get? (f k) = d.get? k := by
  show lookupEntry (f k) (d.entries.map fun e => (f e.1, e.2)) = lookupEntry k d.entries
  induction d.entries with
  | nil => rfl
  | cons e es ih => simp [lookupEntry, ih]

@[simp] theorem contains_rename (d : Dictionary β) (k : String) :
    (d.rename f).contains (f k) = d.contains k := by
  simp [contains]

theorem keys_rename (d : Dictionary β) : (d.rename f).keys = d.keys.map f := by
  simp [keys, rename]

theorem insert_rename (d : Dictionary β) (k : String) (v : β) :
    (d.rename f).insert (f k) v = (d.insert k v).rename f := by
  refine ext_entries ?_
  show insertEntry (f k) v (d.entries.map fun e => (f e.1, e.2)) =
    (insertEntry k v d.entries).map fun e => (f e.1, e.2)
  induction d.entries with
  | nil => rfl
  | cons e es ih =>
    by_cases hk : e.1 = k
    · simp [insertEntry, hk]
    · simp [insertEntry, hk, ih]

theorem insertAll_rename (d : Dictionary β) (entries : List (String × β)) :
    (d.rename f).insertAll (entries.map fun e => (f e.1, e.2)) =
      (d.insertAll entries).rename f := by
  induction entries generalizing d with
  | nil => rfl
  | cons e es ih =>
    show ((d.rename f).insert (f e.1) e.2).insertAll (es.map _) =
      ((d.insert e.1 e.2).insertAll es).rename f
    rw [insert_rename, ih]

theorem ofList_rename (entries : List (String × β)) :
    ofList (entries.map fun e => (f e.1, e.2)) = (ofList entries).rename f :=
  insertAll_rename f empty entries

end Dictionary

def Term.rename (f : String ↪ String) : Term → Term
  | .var name => .var (f name)
  | t => t

def TriplePattern.rename (f : String ↪ String) (p : TriplePattern) : TriplePattern :=
  ⟨p.subject.rename f, p.predicate.rename f, p.object.rename f⟩

def Expression.rename (f : String ↪ String) : Expression → Expression
  | .var name => .var (f name)
  | .const t => .const t
  | .bound name => .bound (f name)
  | .not e => .not (e.rename f)
  | .and a b => .and (a.rename f) (b.rename f)
  | .or a b => .or (a.rename f) (b.rename f)
  | .compare op a b => .compare op (a.rename f) (b.rename f)
  | .regex e p => .regex (e.rename f) p
  | .contains a b => .contains (a.rename f) (b.rename f)
  | .strStarts a b => .strStarts (a.rename f) (b.rename f)
  | .strEnds a b => .strEnds (a.rename f) (b.rename f)
  | .str e => .str (e.rename f)
  | .lang e => .lang (e.rename f)
  | .isIri e => .isIri (e.rename f)
  | .isLiteral e => .isLiteral (e.rename f)

def Block.rename (f : String ↪ String) (b : Block) : Block :=
  ⟨b.required.map (·.rename f), b.filters.map (·.rename f)⟩

def Group.rename (f : String ↪ String) (g : Group) : Group :=
  ⟨g.required.map (·.rename f), g.optionals.map (·.rename f), g.filters.map (·.rename f)⟩

def Projection.rename (f : String ↪ String) : Projection → Projection
  | .all => .all
  | .vars names => .vars (names.map f)

def QueryForm.rename (f : String ↪ String) : QueryForm → QueryForm
  | .select p => .select (p.rename f)
  | .construct template => .construct (template.map (·.rename f))
  | .ask => .ask
  | .describe resources => .describe (resources.map (·.rename f))

def OrderKey.rename (f : String ↪ String) (k : OrderKey) : OrderKey := { k with var := f k.var }

def Modifiers.rename (f : String ↪ String) (m : Modifiers) : Modifiers :=
  { m with orderBy := m.orderBy.map (·.rename f) }

def Query.rename (f : String ↪ String) (q : Query) : Query :=
  { q with
    form := q.form.rename f
    group := q.group.rename f
    modifiers := q.modifiers.rename f }

def Answer.rename (f : String ↪ String) : Answer → Answer
  | .solutions vars rows => .solutions (vars.map f) (rows.map (·.rename f))
  | .boolean value => .boolean value
  | .graph ts => .graph ts

variable (f : String ↪ String) {row : Binding}

/-- A value that takes the place of a variable has to be no variable, or it would be renamed. -/
theorem Term.substitute_rename (hrow : row.Ground) (t : Term) :
    (t.rename f).substitute (row.rename f) = (t.substitute row).rename f := by
  cases t with
  | var name =>
    cases hvalue : row.get? name with
    | none => simp [rename, substitute, hvalue]
    | some value =>
      have hvar := hrow name value hvalue
      cases value with
      | var other => cases hvar
      | _ => simp [rename, substitute, hvalue]
  | _ => rfl

theorem Term.matchValue?_rename (p value : Term) (row : Binding) :
    (p.rename f).matchValue? value (row.rename f) =
      (p.matchValue? value row).map (·.rename f) := by
  cases p with
  | var name =>
    simp only [rename, matchValue?, Dictionary.get?_rename]
    cases row.get? name with
    | none => simp [Dictionary.insert_rename]
    | some known => by_cases h : known = value <;> simp [h]
  | iri i =>
    simp only [rename, matchValue?_const (p := .iri i) rfl]
    split <;> rfl
  | literal l =>
    simp only [rename, matchValue?_const (p := .literal l) rfl]
    split <;> rfl

namespace TriplePattern

theorem substitute_rename (hrow : row.Ground) (p : TriplePattern) :
    (p.rename f).substitute (row.rename f) = (p.substitute row).rename f := by
  simp only [substitute, rename, Term.substitute_rename f hrow]

theorem matchTriple?_rename (p : TriplePattern) (t : Triple) (row : Binding) :
    (p.rename f).matchTriple? t (row.rename f) = (p.matchTriple? t row).map (·.rename f) := by
  simp only [matchTriple?, rename, bind, Term.matchValue?_rename, Option.bind_map, Option.map_bind,
    Function.comp_def]

theorem instantiate?_rename (hrow : row.Ground) (p : TriplePattern) :
    (p.rename f).instantiate? (row.rename f) = p.instantiate? row := by
  simp only [instantiate?, rename, Term.substitute_rename f hrow]
  cases p.subject.substitute row <;> cases p.predicate.substitute row <;>
    cases p.object.substitute row <;> rfl

end TriplePattern

theorem Expression.value?_rename (e : Expression) (row : Binding) :
    (e.rename f).value? (row.rename f) = e.value? row := by
  induction e with
  | const t => rfl
  | var name => simp only [rename, value?, Dictionary.get?_rename]
  | bound name => simp only [rename, value?, Dictionary.contains_rename]
  | _ => simp only [rename, value?, *]

theorem passesAll_rename (filters : List Expression) (row : Binding) :
    passesAll (filters.map (·.rename f)) (row.rename f) = passesAll filters row := by
  simp only [passesAll, List.all_map, Function.comp_def, Expression.holds, Expression.value?_rename]

theorem filter_passesAll_rename (filters : List Expression) (rows : List Binding) :
    (rows.map (·.rename f)).filter (passesAll (filters.map (·.rename f))) =
      (rows.filter (passesAll filters)).map (·.rename f) := by
  simp only [List.filter_map, Function.comp_def, passesAll_rename]

theorem flatMap_rename {F F' : Binding → List Binding} {rows : List Binding}
    (h : ∀ r ∈ rows, F' (r.rename f) = (F r).map (·.rename f)) :
    (rows.map (·.rename f)).flatMap F' = (rows.flatMap F).map (·.rename f) := by
  rw [List.flatMap_map, List.map_flatMap]
  exact List.flatMap_congr h

namespace Store

variable {s : Store}

theorem Covers.ground (hs : s.Ground) (h : s.Covers row) : row.Ground := by
  intro k v hv
  obtain ⟨t, ht, hv⟩ := List.mem_flatMap.1 (h.get? hv)
  simp only [Triple.terms, List.mem_cons, List.not_mem_nil, or_false] at hv
  rcases hv with rfl | rfl | rfl
  · rfl
  · rfl
  · exact hs t ht

theorem extend_rename (hs : s.Ground) (hrow : s.Covers row) (p : TriplePattern) :
    s.extend (p.rename f) (row.rename f) = (s.extend p row).map (·.rename f) := by
  simp only [extend, p.substitute_rename f (hrow.ground hs), TriplePattern.matchTriple?_rename,
    List.map_filterMap]

theorem joinAll_rename (hs : s.Ground) (ps : List TriplePattern) {rows : List Binding}
    (h : ∀ r ∈ rows, s.Covers r) :
    s.joinAll (ps.map (·.rename f)) (rows.map (·.rename f)) =
      (s.joinAll ps rows).map (·.rename f) := by
  induction ps generalizing rows with
  | nil => rfl
  | cons p ps ih =>
    have hjoin : s.join (p.rename f) (rows.map (·.rename f)) =
        (s.join p rows).map (·.rename f) :=
      flatMap_rename f fun r hr => extend_rename f hs (h r hr) p
    rw [List.map_cons, joinAll_cons, joinAll_cons, hjoin, ih (covers_join p h)]

theorem solveBlock_rename (hs : s.Ground) (hrow : s.Covers row) (b : Block) :
    s.solveBlock (b.rename f) (row.rename f) = (s.solveBlock b row).map (·.rename f) := by
  have hjoin := joinAll_rename f hs b.required (List.forall_mem_singleton.2 hrow)
  rw [List.map_singleton] at hjoin
  rw [solveBlock, solveBlock, Block.rename, hjoin, filter_passesAll_rename]

theorem leftExtend_rename (hs : s.Ground) (hrow : s.Covers row) (b : Block) :
    s.leftExtend (b.rename f) (row.rename f) = (s.leftExtend b row).map (·.rename f) := by
  rw [leftExtend, leftExtend, solveBlock_rename f hs hrow]
  cases s.solveBlock b row <;> rfl

theorem leftJoins_rename (hs : s.Ground) (bs : List Block) {rows : List Binding}
    (h : ∀ r ∈ rows, s.Covers r) :
    (bs.map (·.rename f)).foldl (fun rows b => s.leftJoin b rows) (rows.map (·.rename f)) =
      (bs.foldl (fun rows b => s.leftJoin b rows) rows).map (·.rename f) := by
  induction bs generalizing rows with
  | nil => rfl
  | cons b bs ih =>
    have hjoin : s.leftJoin (b.rename f) (rows.map (·.rename f)) =
        (s.leftJoin b rows).map (·.rename f) :=
      flatMap_rename f fun r hr => leftExtend_rename f hs (h r hr) b
    have hcovers : ∀ r ∈ s.leftJoin b rows, s.Covers r := covers_leftJoins [b] h
    rw [List.map_cons, List.foldl_cons, List.foldl_cons, hjoin, ih hcovers]

theorem solve_rename (hs : s.Ground) (g : Group) :
    s.solve (g.rename f) = (s.solve g).map (·.rename f) := by
  have hempty := List.forall_mem_singleton.2 s.covers_empty
  have hrequired := joinAll_rename f hs g.required hempty
  have hoptionals := leftJoins_rename f hs g.optionals (covers_joinAll g.required hempty)
  rw [List.map_singleton] at hrequired
  rw [solve_eq, solve_eq, ← filter_passesAll_rename, ← hoptionals, ← hrequired]
  rfl

end Store

theorem valueText_rename (row : Binding) (var : String) :
    valueText (row.rename f) (f var) = valueText row var := by
  rw [valueText, Dictionary.get?_rename, valueText]

theorem distinctKey_rename (vars : List String) (row : Binding) :
    distinctKey (vars.map f) (row.rename f) = distinctKey vars row := by
  simp only [distinctKey, List.map_map, Function.comp_def, valueText_rename]

theorem dropRepeated_map {α β κ : Type} [BEq κ] (key : β → κ) (g : α → β) (seen : List κ)
    (xs : List α) :
    dropRepeated key seen (xs.map g) = (dropRepeated (fun x => key (g x)) seen xs).map g := by
  induction xs generalizing seen with
  | nil => rfl
  | cons x xs ih =>
    simp only [List.map_cons, dropRepeated, ih]
    split <;> rfl

theorem applyDistinct_rename (vars : List String) (rows : List Binding) :
    applyDistinct (vars.map f) (rows.map (·.rename f)) =
      (applyDistinct vars rows).map (·.rename f) := by
  simp only [applyDistinct, dropRepeated_map, distinctKey_rename]

theorem compareRows_rename (keys : List OrderKey) (a b : Binding) :
    compareRows (keys.map (·.rename f)) (a.rename f) (b.rename f) = compareRows keys a b := by
  induction keys with
  | nil => rfl
  | cons k ks ih =>
    rw [List.map_cons, compareRows, compareRows, ih]
    simp only [OrderKey.compare, OrderKey.rename, valueText_rename]

theorem applyOrder_rename (keys : List OrderKey) (rows : List Binding) :
    applyOrder (keys.map (·.rename f)) (rows.map (·.rename f)) =
      (applyOrder keys rows).map (·.rename f) := by
  refine (List.map_mergeSort fun a _ b _ => ?_).symm
  rw [compareRows_rename]

theorem Modifiers.apply_rename (m : Modifiers) (vars : List String) (rows : List Binding) :
    (m.rename f).apply (vars.map f) (rows.map (·.rename f)) =
      (m.apply vars rows).map (·.rename f) := by
  simp only [apply, rename, applyDistinct_rename]
  split <;> simp only [applyOrder_rename, List.map_take, List.map_drop]

theorem boundVariables_rename (rows : List Binding) :
    boundVariables (rows.map (·.rename f)) = (boundVariables rows).map f := by
  rw [boundVariables, boundVariables, ← eraseDups_map f.injective, List.flatMap_map,
    List.map_flatMap]
  simp only [Dictionary.keys_rename]

theorem Projection.variableNames_rename (p : Projection) (rows : List Binding) :
    (p.rename f).variableNames (rows.map (·.rename f)) = (p.variableNames rows).map f := by
  cases p with
  | all => exact boundVariables_rename f rows
  | vars names => rfl

theorem narrow_rename (vars : List String) (row : Binding) :
    narrow (vars.map f) (row.rename f) = (narrow vars row).rename f := by
  rw [narrow, narrow, ← Dictionary.ofList_rename, List.filterMap_map, List.map_filterMap]
  simp only [Function.comp_def, Dictionary.get?_rename, Option.map_map]

theorem project_rename (p : Projection) (m : Modifiers) (rows : List Binding) :
    project (p.rename f) (m.rename f) (rows.map (·.rename f)) =
      ((project p m rows).1.map f, (project p m rows).2.map (·.rename f)) := by
  simp only [project, Projection.variableNames_rename, Modifiers.apply_rename, List.map_map,
    Function.comp_def, narrow_rename]

theorem construct_rename (template : List TriplePattern) {rows : List Binding}
    (h : ∀ r ∈ rows, r.Ground) :
    construct (template.map (·.rename f)) (rows.map (·.rename f)) = construct template rows := by
  rw [construct, construct, List.flatMap_map]
  refine congrArg List.eraseDups (List.flatMap_congr fun r hr => ?_)
  simp only [List.filterMap_map, Function.comp_def, TriplePattern.instantiate?_rename f (h r hr)]

theorem describedBy_rename (rows : List Binding) (t : Term) :
    describedBy (rows.map (·.rename f)) (t.rename f) = describedBy rows t := by
  cases t with
  | var name =>
    simp only [Term.rename, describedBy, List.filterMap_map, Function.comp_def,
      Dictionary.get?_rename]
  | _ => rfl

theorem describedIris_rename (resources : List Term) (rows : List Binding) :
    describedIris (resources.map (·.rename f)) (rows.map (·.rename f)) =
      describedIris resources rows := by
  simp only [describedIris, List.isEmpty_map, List.flatMap_map, describedBy_rename,
    Dictionary.entries_rename, List.filterMap_map, Function.comp_def]

theorem Query.page_rename (q : Query) (rows : List Binding) :
    (q.rename f).page (rows.map (·.rename f)) = (q.page rows).map (·.rename f) := by
  rw [page, boundVariables_rename]
  exact Modifiers.apply_rename f q.modifiers _ rows

/-- The renamed query has the renamed answer: the same rows in the same order, each variable under
its new name, and the same boolean or graph. -/
theorem Query.execute_rename {s : Store} (hs : s.Ground) (q : Query) :
    (q.rename f).execute s = (q.execute s).rename f := by
  have hsolve : s.solve (q.rename f).group = (s.solve q.group).map (·.rename f) :=
    Store.solve_rename f hs q.group
  have hground : ∀ row ∈ q.page (s.solve q.group), row.Ground := fun row hrow =>
    (s.covers_solve q.group row (q.modifiers.apply_subset _ _ hrow)).ground hs
  have hform : (q.rename f).form = q.form.rename f := rfl
  have hmodifiers : (q.rename f).modifiers = q.modifiers.rename f := rfl
  cases hq : q.form with
  | select p =>
    simp only [execute, hform, hmodifiers, hsolve, hq, QueryForm.rename, project_rename]
    rfl
  | ask =>
    simp only [execute, hform, hsolve, hq, QueryForm.rename, List.isEmpty_map]
    rfl
  | construct template =>
    simp only [execute, hform, hsolve, hq, QueryForm.rename, page_rename,
      construct_rename f template hground]
    rfl
  | describe resources =>
    simp only [execute, hform, hsolve, hq, QueryForm.rename, page_rename, describe,
      describedIris_rename]
    rfl

theorem Query.execute_rename_namedFirst :
    let swap : String ↪ String := (Equiv.swap "r" "n").toEmbedding
    parseWith .wellKnown 5 namedFirstSource = .ok namedFirst ∧ Store.races.Ground ∧
    (namedFirst.rename swap).execute .races = .solutions ["n", "r"]
      [Dictionary.ofList [("n", .iri ⟨"http://example.org/1"⟩), ("r", .literal (.plain "5K"))],
        Dictionary.ofList [("n", .iri ⟨"http://example.org/2"⟩)]] := by
  intro swap
  have hground : Store.races.Ground := by
    simp only [Store.Ground, Store.races, List.forall_mem_cons]
    exact ⟨rfl, rfl, rfl, rfl, List.forall_mem_nil _⟩
  have hanswer : namedFirst.execute .races = .solutions ["r", "n"]
      [Dictionary.ofList [("r", .iri ⟨"http://example.org/1"⟩), ("n", .literal (.plain "5K"))],
        Dictionary.ofList [("r", .iri ⟨"http://example.org/2"⟩)]] := by
    have hsorted : applyOrder namedFirst.modifiers.orderBy
        (applyDistinct ["r", "n"] (Store.races.solve namedFirst.group)) =
          applyDistinct ["r", "n"] (Store.races.solve namedFirst.group) :=
      List.mergeSort_of_pairwise (by decide +kernel)
    calc namedFirst.execute .races
        = .solutions ["r", "n"] (((applyOrder namedFirst.modifiers.orderBy
            (applyDistinct ["r", "n"] (Store.races.solve namedFirst.group))).take 5).map
              (narrow ["r", "n"])) := rfl
      _ = _ := by rw [hsorted]; decide +kernel
  refine ⟨by decide +kernel, hground, ?_⟩
  rw [execute_rename swap hground namedFirst, hanswer]
  decide +kernel

end LinkedRaces
