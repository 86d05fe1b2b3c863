import LinkedRaces.Query.Solutions
import Mathlib.Data.List.Infix

/-!
What `DISTINCT` keeps. A row stays if no row before it has the same key, and the rows that stay keep
their order. The key is one text for all projected values, with NUL between them: it tells the parts
between the NULs, not the values that they belong to. So rows with different values can only be taken
for duplicates if some column has more NULs in one of them than in the other.
-/

namespace LinkedRaces

section Firsts

variable {α κ ι : Type} [DecidableEq κ] [DecidableEq ι]

/-- The elements that look like none before them, in their order. -/
def firstsBy (view : α → κ) (xs : List α) : List α :=
  (xs.zipIdx.filter fun x => decide (view x.1 ∉ (xs.take x.2).map view)).map Prod.fst

theorem firstsBy_congr {f : α → κ} {g : α → ι} {xs : List α}
    (h : ∀ x ∈ xs, ∀ y ∈ xs, f x = f y ↔ g x = g y) : firstsBy f xs = firstsBy g xs := by
  refine congrArg (List.map Prod.fst) (List.filter_congr fun x hx => decide_eq_decide.2 ?_)
  have hmem : x.1 ∈ xs := List.fst_mem_of_mem_zipIdx hx
  simp only [List.mem_map, not_exists, not_and]
  refine forall₂_congr fun y hy => not_congr ?_
  exact h y (List.mem_of_mem_take hy) x.1 hmem

theorem dropRepeated_eq (key : α → κ) {seen : List κ} {before : List α}
    (hseen : ∀ k, k ∈ seen ↔ k ∈ before.map key) (xs : List α) :
    dropRepeated key seen xs = (xs.zipIdx.filter fun x =>
      decide (key x.1 ∉ (before ++ xs.take x.2).map key)).map Prod.fst := by
  induction xs generalizing seen before with
  | nil => rfl
  | cons x xs ih =>
    have hnext : ∀ seen', (∀ k, k ∈ seen' ↔ k ∈ (before ++ [x]).map key) →
        dropRepeated key seen' xs = ((xs.zipIdx 1).filter fun z =>
          decide (key z.1 ∉ (before ++ (x :: xs).take z.2).map key)).map Prod.fst := by
      intro seen' hseen'
      rw [ih hseen', List.zipIdx_succ, List.filter_map, List.map_map]
      simp [Function.comp_def]
    rw [List.zipIdx_cons, List.filter_cons, dropRepeated]
    by_cases hx : key x ∈ seen
    · have hbefore := (hseen _).1 hx
      rw [if_pos (List.contains_iff_mem.2 hx), if_neg (by simpa using hbefore)]
      refine hnext seen fun k => ?_
      rw [hseen, List.map_append, List.mem_append]
      refine ⟨Or.inl, ?_⟩
      rintro (h | h)
      · exact h
      · exact List.mem_singleton.1 h ▸ hbefore
    · have hbefore := mt (hseen _).2 hx
      rw [if_neg (mt List.contains_iff_mem.1 hx), if_pos (by simpa using hbefore), List.map_cons]
      refine congrArg (x :: ·) (hnext (key x :: seen) fun k => ?_)
      rw [List.mem_cons, hseen, List.map_append, List.mem_append]
      simp [or_comm]

theorem dropRepeated_nil (key : α → κ) (xs : List α) :
    dropRepeated key [] xs = firstsBy key xs := by
  have hseen : ∀ k, k ∈ ([] : List κ) ↔ k ∈ ([] : List α).map key := fun _ => Iff.rfl
  simpa [firstsBy] using dropRepeated_eq key hseen xs

end Firsts

theorem splitOn_intercalate_eq_flatMap {α : Type} [DecidableEq α] (sep : α) {xss : List (List α)}
    (hne : xss ≠ []) :
    ([sep].intercalate xss).splitOn sep = xss.flatMap (List.splitOn sep) := by
  induction xss with
  | nil => exact absurd rfl hne
  | cons xs xss ih =>
    cases xss with
    | nil => simp
    | cons ys xss =>
      rw [List.intercalate_cons_cons, List.append_assoc, List.singleton_append,
        List.splitOn_append_cons_self, ih (List.cons_ne_nil ys xss)]
      rfl

theorem splitOn_inj {α : Type} [DecidableEq α] {sep : α} {xs ys : List α} :
    xs.splitOn sep = ys.splitOn sep ↔ xs = ys := by
  refine ⟨fun h => ?_, congrArg _⟩
  calc xs = [sep].intercalate (xs.splitOn sep) := (List.intercalate_splitOn sep).symm
    _ = [sep].intercalate (ys.splitOn sep) := by rw [h]
    _ = ys := List.intercalate_splitOn sep

theorem length_splitOn {α : Type} [DecidableEq α] (sep : α) (xs : List α) :
    (xs.splitOn sep).length = xs.count sep + 1 := by
  induction xs with
  | nil => simp
  | cons x xs ih =>
    rw [List.splitOn_cons_eq_if_modifyHead, List.count_cons]
    split <;> simp [ih]

def valueTexts (vars : List String) (row : Binding) : List String := vars.map (valueText row)

def keyParts (vars : List String) (row : Binding) : List (List Char) :=
  vars.flatMap fun v => (valueText row v).toList.splitOn '\x00'

theorem toList_distinctKey (vars : List String) (row : Binding) :
    (distinctKey vars row).toList =
      ['\x00'].intercalate (vars.map fun v => (valueText row v).toList) := by
  rw [distinctKey, Text.join, String.toList_intercalate, List.map_map]
  rfl

theorem distinctKey_eq_iff (vars : List String) (a b : Binding) :
    distinctKey vars a = distinctKey vars b ↔ keyParts vars a = keyParts vars b := by
  rcases eq_or_ne vars [] with rfl | hne
  · exact iff_of_true rfl rfl
  · have hparts (row : Binding) :
        (distinctKey vars row).toList.splitOn '\x00' = keyParts vars row := by
      rw [toList_distinctKey, splitOn_intercalate_eq_flatMap _ (by simpa using hne),
        List.flatMap_map]
      rfl
    rw [← String.toList_inj, ← hparts, ← hparts, splitOn_inj]

def SameCounts (vars : List String) (a b : Binding) : Prop :=
  ∀ v ∈ vars, (valueText a v).toList.count '\x00' = (valueText b v).toList.count '\x00'

instance (vars : List String) (a b : Binding) : Decidable (SameCounts vars a b) :=
  inferInstanceAs (Decidable (∀ v ∈ vars, _ = _))

theorem keyParts_eq_of_valueTexts {vars : List String} {a b : Binding}
    (h : valueTexts vars a = valueTexts vars b) : keyParts vars a = keyParts vars b :=
  List.flatMap_congr fun v hv => by rw [List.map_inj_left.1 h v hv]

theorem keyParts_eq_iff {vars : List String} {a b : Binding} (h : SameCounts vars a b) :
    keyParts vars a = keyParts vars b ↔ valueTexts vars a = valueTexts vars b := by
  refine ⟨fun heq => ?_, keyParts_eq_of_valueTexts⟩
  induction vars with
  | nil => rfl
  | cons v vars ih =>
    obtain ⟨hv, hvars⟩ := List.forall_mem_cons.1 h
    have hlength : ((valueText a v).toList.splitOn '\x00').length =
        ((valueText b v).toList.splitOn '\x00').length := by
      rw [length_splitOn, length_splitOn, hv]
    obtain ⟨hfirst, hrest⟩ := List.append_inj heq hlength
    exact List.cons_eq_cons.2 ⟨String.toList_inj.1 (splitOn_inj.1 hfirst), ih hvars hrest⟩

/-- Rows are kept by the parts of their keys: the first of each. Rows with the same values have the
same parts, and rows with as many NULs in each column have the same parts only if they have the same
values. So where no column has more NULs in one row than in another, and in particular where there
are no NULs, just the first row of each list of values is kept. -/
theorem applyDistinct_eq_firstsBy (vars : List String) :
    (∀ rows, applyDistinct vars rows = firstsBy (keyParts vars) rows) ∧
    (∀ a b, valueTexts vars a = valueTexts vars b → keyParts vars a = keyParts vars b) ∧
    (∀ a b, SameCounts vars a b → keyParts vars a = keyParts vars b →
      valueTexts vars a = valueTexts vars b) ∧
    ∀ rows, (∀ a ∈ rows, ∀ b ∈ rows, SameCounts vars a b) →
      applyDistinct vars rows = firstsBy (valueTexts vars) rows := by
  have hrows (rows : List Binding) : applyDistinct vars rows = firstsBy (keyParts vars) rows := by
    rw [applyDistinct, dropRepeated_nil]
    exact firstsBy_congr fun a _ b _ => distinctKey_eq_iff vars a b
  refine ⟨hrows, fun _ _ => keyParts_eq_of_valueTexts, fun _ _ h => (keyParts_eq_iff h).1,
    fun rows h => ?_⟩
  rw [hrows]
  exact firstsBy_congr fun a ha b hb => keyParts_eq_iff (h a ha b hb)

def noteRow (race note : String) : Binding :=
  Dictionary.ofList [("race", .literal (.plain race)), ("note", .literal (.plain note))]

theorem applyDistinct_eq_firstsBy_races :
    let rows := [noteRow "5K\x00Run" "wet", noteRow "5K\x00Run" "dry", noteRow "10K\x00Run" "dry"]
    ((∀ a ∈ rows, ∀ b ∈ rows, SameCounts ["race"] a b) ∧
      valueTexts ["race"] (noteRow "5K\x00Run" "wet") =
        valueTexts ["race"] (noteRow "5K\x00Run" "dry")) ∧
    keyParts ["race"] (noteRow "5K\x00Run" "wet") = keyParts ["race"] (noteRow "5K\x00Run" "dry") ∧
    applyDistinct ["race"] rows = [noteRow "5K\x00Run" "wet", noteRow "10K\x00Run" "dry"] := by
  intro rows
  have hcounts : ∀ a ∈ rows, ∀ b ∈ rows, SameCounts ["race"] a b := by decide +kernel
  have htexts : valueTexts ["race"] (noteRow "5K\x00Run" "wet") =
      valueTexts ["race"] (noteRow "5K\x00Run" "dry") := by decide +kernel
  obtain ⟨-, hparts, hvalues, hrows⟩ := applyDistinct_eq_firstsBy ["race"]
  have hkeys := hparts _ _ htexts
  refine ⟨⟨hcounts, hvalues _ _ (hcounts _ (by simp [rows]) _ (by simp [rows])) hkeys⟩, hkeys, ?_⟩
  rw [hrows rows hcounts]
  decide +kernel

/-- A NUL in a value looks like the one between two columns. -/
theorem applyDistinct_shifted_nul :
    let rows := [noteRow "a\x00b" "c", noteRow "a" "b\x00c"]
    applyDistinct ["race", "note"] rows = [noteRow "a\x00b" "c"] ∧
      firstsBy (valueTexts ["race", "note"]) rows = rows := by
  decide +kernel

end LinkedRaces
