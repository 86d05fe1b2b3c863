import LinkedRaces.Proofs.Grouping
import LinkedRaces.Proofs.Query.Algebra
import LinkedRaces.Proofs.Query.RoundTrip
import LinkedRaces.Query.Execution
import Mathlib.Algebra.Order.BigOperators.Group.List
import Mathlib.Algebra.Order.Ring.Nat
import Mathlib.Data.List.Perm.Subperm

/-!
The size of an answer, and its pages. A parsed query is limited, and what its limit bounds is the
number of rows, so the limit of the reader bounds the work of whoever answers it. Queries that differ
in their offset alone return consecutive pages of one listing.
-/

namespace LinkedRaces

theorem Modifiers.length_apply_le (m : Modifiers) (vars : List String) (rows : List Binding) :
    (m.apply vars rows).length ≤ m.limit :=
  List.length_take_le _ _

theorem length_construct_le (template : List TriplePattern) (rows : List Binding) :
    (construct template rows).length ≤ rows.length * template.length := by
  have hinstances : ∀ n ∈ rows.map fun row => (template.filterMap (·.instantiate? row)).length,
      n ≤ template.length := by
    intro n hn
    obtain ⟨row, -, rfl⟩ := List.mem_map.1 hn
    exact List.length_filterMap_le _ _
  calc (construct template rows).length
      ≤ (rows.flatMap fun row => template.filterMap (·.instantiate? row)).length :=
        (List.Nodup.subperm (nodup_eraseDups _) fun _ ht => List.mem_eraseDups.1 ht).length_le
    _ ≤ rows.length * template.length := by
        rw [List.length_flatMap]
        simpa using List.sum_le_card_nsmul _ _ hinstances

namespace Query

variable {t : Namespaces} {maxLimit : Nat} {source : String} {q : Query}

theorem length_page_le (q : Query) (rows : List Binding) :
    (q.page rows).length ≤ q.modifiers.limit :=
  q.modifiers.length_apply_le _ rows

theorem execute_select {p : Projection} (hform : q.form = .select p) (s : Store) :
    q.execute s = .solutions (project p q.modifiers (s.solve q.group)).1
      (project p q.modifiers (s.solve q.group)).2 := by
  simp only [execute, hform]

theorem execute_construct {template : List TriplePattern} (hform : q.form = .construct template)
    (s : Store) : q.execute s = .graph (construct template (q.page (s.solve q.group))) := by
  simp only [execute, hform]

def patterns (q : Query) : List TriplePattern :=
  (match q.form with
    | .construct template => template
    | _ => []) ++ q.group.required ++ q.group.optionals.flatMap Block.required

/-- What a reader with that limit promises to those that answer the query. -/
structure Bounded (maxLimit : Nat) (q : Query) : Prop where
  limit : q.modifiers.limit ≤ maxLimit
  noLiteral : ∀ p ∈ q.patterns, p.subject.isLiteral = false ∧ p.predicate.isLiteral = false
  projection : ∀ names, q.form = .select (.vars names) → names ≠ [] ∧ names.Nodup
  distinct : q.modifiers.distinct → ∃ p, q.form = .select p

theorem Grammatical.bounded (h : q.Grammatical) (hlimit : q.modifiers.limit ≤ maxLimit) :
    q.Bounded maxLimit where
  limit := hlimit
  noLiteral := by
    have htemplate : ∀ template, q.form = .construct template → ∀ p ∈ template, p.Grammatical := by
      intro template hform
      exact (hform ▸ h.form : (QueryForm.construct template).Grammatical)
    intro p hp
    have hgrammatical : p.Grammatical := by
      simp only [patterns, List.mem_append, List.mem_flatMap] at hp
      obtain (hp | hp) | ⟨b, hb, hp⟩ := hp
      · split at hp
        · next template hform => exact htemplate template hform p hp
        · cases hp
      · exact h.group.required p hp
      · exact (h.group.optionals b hb).required p hp
    exact ⟨hgrammatical.subject, hgrammatical.predicate⟩
  projection names hform := by
    have hnames : (QueryForm.select (.vars names)).Grammatical := hform ▸ h.form
    exact ⟨hnames.1, hnames.2.1⟩
  distinct := h.distinct

/-- Parsed queries are bounded, and so are their answers from any store. Blocks have no blocks by
their type; what the parser reads as a block never had any. -/
theorem bounded_of_parseWith (h : parseWith t maxLimit source = .ok q) :
    q.Bounded maxLimit ∧
    (∀ t ts, Ensures (QueryParser.parts t true ts) fun r => r.value.optionals = []) ∧
    (∀ p, q.form = .select p → ∀ s : Store,
      ∃ vars rows, q.execute s = .solutions vars rows ∧ rows.length ≤ maxLimit) ∧
    ∀ template, q.form = .construct template → ∀ s : Store,
      ∃ ts, q.execute s = .graph ts ∧ ts.length ≤ maxLimit * template.length := by
  obtain ⟨hgrammatical, hmodifiers⟩ := ensures_parseWith t maxLimit source q h
  have hlimit := hmodifiers.limit
  refine ⟨hgrammatical.bounded hlimit, QueryParser.ensures_parts_nested, fun p hform s => ?_,
    fun template hform s => ?_⟩
  · refine ⟨_, _, execute_select hform s, ?_⟩
    rw [project, List.length_map]
    exact (q.modifiers.length_apply_le _ _).trans hlimit
  · refine ⟨_, execute_construct hform s, (length_construct_le _ _).trans ?_⟩
    exact Nat.mul_le_mul_right _ ((q.length_page_le _).trans hlimit)

theorem bounded_of_parseWith_types :
    let typed : List TriplePattern := [⟨.var "r", .iri Vocabulary.rdfType, .var "c"⟩]
    let rows : Query :=
      ⟨.select (.vars ["r"]), ⟨typed, [], []⟩, ⟨true, [], 10, 0⟩, .wellKnown⟩
    let types : Query := ⟨.construct typed, ⟨typed, [], []⟩, .ofLimit 10, .wellKnown⟩
    (parseWith .wellKnown 10 "SELECT DISTINCT ?r ?r \x7b ?r a ?c \x7d LIMIT 20" = .ok rows ∧
      rows.Bounded 10 ∧
      ∃ vars page, rows.execute .races = .solutions vars page ∧ page.length ≤ 10) ∧
    parseWith .wellKnown 10 "CONSTRUCT WHERE \x7b ?r a ?c \x7d" = .ok types ∧
      ∃ ts, types.execute .races = .graph ts ∧ ts.length ≤ 10 * 1 := by
  intro typed rows types
  have hrows : parseWith .wellKnown 10 "SELECT DISTINCT ?r ?r \x7b ?r a ?c \x7d LIMIT 20" =
      .ok rows := by
    decide +kernel
  have htypes : parseWith .wellKnown 10 "CONSTRUCT WHERE \x7b ?r a ?c \x7d" = .ok types := by
    decide +kernel
  obtain ⟨hbounded, -, hpage, -⟩ := bounded_of_parseWith hrows
  obtain ⟨-, -, -, hgraph⟩ := bounded_of_parseWith htypes
  exact ⟨⟨hrows, hbounded, hpage _ rfl .races⟩, htypes, hgraph typed rfl .races⟩

def atPage (q : Query) (size page : Nat) : Query :=
  { q with modifiers := { q.modifiers with limit := size, offset := page * size } }

/-- All rows of a selection: in order, without duplicates if they are dropped, and narrowed to the
projected variables. -/
def listing (q : Query) (p : Projection) (s : Store) : List Binding :=
  let rows := s.solve q.group
  let vars := p.variableNames rows
  (applyOrder q.modifiers.orderBy
    (if q.modifiers.distinct then applyDistinct vars rows else rows)).map (narrow vars)

theorem execute_listing {p : Projection} (hform : q.form = .select p) (s : Store) :
    q.execute s = .solutions (p.variableNames (s.solve q.group))
      (((q.listing p s).drop q.modifiers.offset).take q.modifiers.limit) := by
  simp only [execute, hform, project, Modifiers.apply, listing, List.map_take, List.map_drop]

theorem execute_atPage {p : Projection} (hform : q.form = .select p) (s : Store) (size page : Nat) :
    (q.atPage size page).execute s = .solutions (p.variableNames (s.solve q.group))
      (((q.listing p s).drop (page * size)).take size) :=
  execute_listing (q := q.atPage size page) hform s

theorem Grammatical.atPage (h : q.Grammatical) {size page : Nat}
    (hpage : page * size ≤ QueryParser.maxCount) : (q.atPage size page).Grammatical :=
  ⟨h.form, h.group, h.distinct, h.orderBy, hpage⟩

theorem flatMap_pages {α : Type} (xs : List α) (size pages : Nat) :
    (List.range pages).flatMap (fun page => (xs.drop (page * size)).take size) =
      xs.take (pages * size) := by
  induction pages with
  | zero => simp
  | succ pages ih =>
    rw [List.range_succ, List.flatMap_append, ih, List.flatMap_singleton, Nat.succ_mul,
      List.take_add]

/-- Page after page, a selection returns the beginning of its listing, and every page has the same
variables. If the query can be written, then the reader takes each page from its text, and whoever
reads the text gets the page, as long as no limit or offset is out of bounds. -/
theorem pages_of_listing {p : Projection} (hform : q.form = .select p) (s : Store)
    (size pages : Nat) :
    ∃ rows : Nat → List Binding,
      (∀ page < pages,
        (q.atPage size page).execute s =
          .solutions (p.variableNames (s.solve q.group)) (rows page)) ∧
      (List.range pages).flatMap rows = (q.listing p s).take (pages * size) ∧
      (q.Grammatical → (∀ c ∈ q.terms, c.Spellable) →
        ∀ (t : Namespaces) (maxLimit : Nat), t.base = none → size ≤ maxLimit →
          maxLimit ≤ QueryParser.maxCount → pages * size ≤ QueryParser.maxCount →
            ∀ page < pages,
              (parseWith t maxLimit (q.atPage size page).text).map (·.execute s) =
                .ok (.solutions (p.variableNames (s.solve q.group)) (rows page))) := by
  refine ⟨fun page => ((q.listing p s).drop (page * size)).take size,
    fun page _ => execute_atPage hform s size page, flatMap_pages _ size pages, ?_⟩
  intro hgrammatical hspellable t maxLimit hbase hsize hmax hlast page hpage
  have hoffset : page * size ≤ QueryParser.maxCount :=
    (Nat.mul_le_mul_right size hpage.le).trans hlast
  rw [parseWith_text_of_grammatical (hgrammatical.atPage hoffset) hspellable hsize hmax hbase]
  exact congrArg Except.ok (execute_atPage hform s size page)

def namedFirst : Query :=
  ⟨.select (.vars ["r", "n"]), Store.racesAndNames, ⟨true, [⟨"n", false⟩], 5, 0⟩, .wellKnown⟩

def namedFirstSource : String :=
  "SELECT DISTINCT ?r ?n \x7b ?r a schema:Event OPTIONAL \x7b ?r schema:name ?n \x7d \x7d " ++
    "ORDER BY DESC(?n)"

theorem pages_of_namedFirst :
    (parseWith .wellKnown 5 namedFirstSource = .ok namedFirst ∧
      namedFirst.form = .select (.vars ["r", "n"]) ∧ namedFirst.Grammatical ∧
      (∀ c ∈ namedFirst.terms, c.Spellable) ∧ Namespaces.empty.base = none ∧ 1 ≤ 10 ∧
      10 ≤ QueryParser.maxCount ∧ 2 * 1 ≤ QueryParser.maxCount) ∧
    ∃ rows : Nat → List Binding,
      rows 0 ++ rows 1 =
        [Dictionary.ofList [("r", .iri ⟨"http://example.org/1"⟩), ("n", .literal (.plain "5K"))],
          Dictionary.ofList [("r", .iri ⟨"http://example.org/2"⟩)]] ∧
      ∀ page < 2, (parseWith .empty 10 (namedFirst.atPage 1 page).text).map (·.execute .races) =
        .ok (.solutions ["r", "n"] (rows page)) := by
  have hspellable : ∀ c ∈ namedFirst.terms, c.Spellable := by decide +kernel
  have hparse : parseWith .wellKnown 5 namedFirstSource = .ok namedFirst := by decide +kernel
  have hgrammatical : namedFirst.Grammatical := (ensures_parseWith _ _ _ _ hparse).1
  have hlisting : namedFirst.listing (.vars ["r", "n"]) .races =
      [Dictionary.ofList [("r", .iri ⟨"http://example.org/1"⟩), ("n", .literal (.plain "5K"))],
        Dictionary.ofList [("r", .iri ⟨"http://example.org/2"⟩)]] := by
    have hsorted : applyOrder namedFirst.modifiers.orderBy
        (applyDistinct ["r", "n"] (Store.races.solve namedFirst.group)) =
          applyDistinct ["r", "n"] (Store.races.solve namedFirst.group) :=
      List.mergeSort_of_pairwise (by decide +kernel)
    calc namedFirst.listing (.vars ["r", "n"]) .races
        = (applyOrder namedFirst.modifiers.orderBy
            (applyDistinct ["r", "n"] (Store.races.solve namedFirst.group))).map
              (narrow ["r", "n"]) := rfl
      _ = _ := by rw [hsorted]; decide +kernel
  have hmax : 10 ≤ QueryParser.maxCount := by decide
  have hlast : 2 * 1 ≤ QueryParser.maxCount := by decide
  obtain ⟨rows, -, hrows, htext⟩ := pages_of_listing (q := namedFirst) rfl .races 1 2
  refine ⟨⟨hparse, rfl, hgrammatical, hspellable, rfl, by decide, hmax, hlast⟩, rows, ?_,
    htext hgrammatical hspellable .empty 10 rfl (by decide) hmax hlast⟩
  rw [hlisting] at hrows
  simpa [List.range_succ] using hrows

end Query

end LinkedRaces
