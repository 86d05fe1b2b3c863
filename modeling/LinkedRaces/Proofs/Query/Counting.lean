import LinkedRaces.Proofs.Query.Pages
import Mathlib.Data.Finset.Card

/-!
How many rows an answer has. Order and projection keep the number of rows, duplicates are dropped
down to one row for each key, and a page takes what its offset leaves and its limit allows. So a
selection has a first row just when the group has a solution, which is what `ASK` tells.
-/

namespace LinkedRaces

theorem length_dropRepeated {α κ : Type} [DecidableEq κ] (key : α → κ) (seen : List κ)
    (xs : List α) :
    (dropRepeated key seen xs).length = ((xs.map key).toFinset \ seen.toFinset).card := by
  induction xs generalizing seen with
  | nil => simp [dropRepeated]
  | cons x xs ih =>
    rw [List.map_cons, List.toFinset_cons]
    by_cases h : key x ∈ seen
    · have hseen : key x ∈ seen.toFinset := List.mem_toFinset.2 h
      rw [dropRepeated, if_pos (List.contains_iff_mem.2 h), ih, Finset.insert_sdiff_of_mem _ hseen]
    · have hnew : key x ∉ seen.toFinset := fun hx => h (List.mem_toFinset.1 hx)
      rw [dropRepeated, if_neg (fun hx => h (List.contains_iff_mem.1 hx)), List.length_cons, ih,
        List.toFinset_cons, Finset.insert_sdiff_of_notMem _ hnew, Finset.sdiff_insert,
        ← Finset.erase_insert_eq_erase, Finset.card_erase_add_one (Finset.mem_insert_self _ _)]

theorem length_applyOrder (keys : List OrderKey) (rows : List Binding) :
    (applyOrder keys rows).length = rows.length :=
  List.length_mergeSort rows

namespace Query

variable {q : Query} {p : Projection}

def atOffset (q : Query) (offset : Nat) : Query :=
  { q with modifiers := { q.modifiers with offset } }

/-- What a selection counts: the solutions, or the different keys among them if duplicates are
dropped. -/
def rowCount (q : Query) (p : Projection) (s : Store) : Nat :=
  let rows := s.solve q.group
  if q.modifiers.distinct then (rows.map (distinctKey (p.variableNames rows))).toFinset.card
  else rows.length

theorem length_listing (q : Query) (p : Projection) (s : Store) :
    (q.listing p s).length = q.rowCount p s := by
  rw [listing, List.length_map, length_applyOrder, rowCount]
  split
  · simp [applyDistinct, length_dropRepeated]
  · rfl

theorem rowCount_pos_iff (q : Query) (p : Projection) (s : Store) :
    0 < q.rowCount p s ↔ s.solve q.group ≠ [] := by
  rw [rowCount]
  split
  · simp [Finset.card_pos]
  · exact List.length_pos_iff

theorem execute_atOffset (hform : q.form = .select p) (s : Store) (offset : Nat) :
    (q.atOffset offset).execute s = .solutions (p.variableNames (s.solve q.group))
      (((q.listing p s).drop offset).take q.modifiers.limit) :=
  execute_listing (q := q.atOffset offset) hform s

/-- Whether a group has a solution is told alike by `ASK` and by any selection over it that starts
at the first row. From a later row on, a selection has a row as long as its rows do not run out. -/
theorem ask_iff_select {a : Query} (hask : a.form = .ask) (hgroup : a.group = q.group)
    (hform : q.form = .select p) (hlimit : 1 ≤ q.modifiers.limit) (s : Store) :
    ∃ (found : Bool) (rows : Nat → List Binding),
      a.execute s = .boolean found ∧
      (∀ k, (q.atOffset k).execute s =
        .solutions (p.variableNames (s.solve q.group)) (rows k)) ∧
      (found ↔ rows 0 ≠ []) ∧ (found ↔ ∃ row, row ∈ s.solve q.group) ∧
      ∀ k, rows k ≠ [] ↔ k < q.rowCount p s := by
  have hrows (k : Nat) :
      ((q.listing p s).drop k).take q.modifiers.limit ≠ [] ↔ k < q.rowCount p s := by
    rw [← List.length_pos_iff, List.length_take, List.length_drop, length_listing]
    omega
  refine ⟨!(s.solve q.group).isEmpty, fun k => ((q.listing p s).drop k).take q.modifiers.limit,
    ?_, execute_atOffset hform s, ?_, ?_, hrows⟩
  · simp only [execute, hask, hgroup]
  · rw [hrows 0, rowCount_pos_iff]
    simp
  · simp [List.eq_nil_iff_forall_not_mem]

theorem ask_iff_select_namedFirst :
    let asked : Query := ⟨.ask, Store.racesAndNames, .ofLimit 5, .wellKnown⟩
    (asked.form = .ask ∧ asked.group = namedFirst.group ∧
      namedFirst.form = .select (.vars ["r", "n"]) ∧ 1 ≤ namedFirst.modifiers.limit) ∧
    asked.execute .races = .boolean true ∧
    ∃ rows : Nat → List Binding,
      (∀ k, (namedFirst.atOffset k).execute .races = .solutions ["r", "n"] (rows k)) ∧
        rows 1 ≠ [] ∧ rows 2 = [] := by
  intro asked
  have hlimit : 1 ≤ namedFirst.modifiers.limit := by decide
  -- three solutions, two of which are the same race with the same name
  have hcount : namedFirst.rowCount (.vars ["r", "n"]) .races = 2 := by decide +kernel
  obtain ⟨found, rows, hfound, hselect, hfirst, -, hrows⟩ :=
    ask_iff_select (a := asked) (q := namedFirst) rfl rfl rfl hlimit .races
  rw [hcount] at hrows
  have htrue : found = true := hfirst.2 ((hrows 0).2 (by decide))
  refine ⟨⟨rfl, rfl, rfl, hlimit⟩, htrue ▸ hfound, rows, hselect, (hrows 1).2 (by decide), ?_⟩
  exact not_not.1 fun h => absurd ((hrows 2).1 h) (by decide)

end Query

end LinkedRaces
