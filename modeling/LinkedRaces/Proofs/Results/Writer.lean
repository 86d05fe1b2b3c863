import LinkedRaces.Proofs.Graph.Writer
import LinkedRaces.Proofs.Query.Answers
import LinkedRaces.Results.Writer

/-!
When an answer is written. Each format checks the terms of the rows one by one, and nothing else of
rows can fail.
-/

namespace LinkedRaces

namespace Results

variable {row : Binding}

theorem exists_termJson {t : Term} (h : t.check = .ok ()) : ∃ v, termJson t = .ok v := by
  refine exists_bind_eq_ok.2 ⟨(), h, ?_⟩
  cases t with
  | iri i => exact ⟨_, rfl⟩
  | literal l =>
    dsimp only
    split <;> exact ⟨_, rfl⟩
  | var name => simp [Term.check] at h

theorem exists_termXml {t : Term} (h : t.check = .ok ()) : ∃ v, termXml t = .ok v := by
  refine exists_bind_eq_ok.2 ⟨(), h, ?_⟩
  cases t with
  | iri i => exact ⟨_, rfl⟩
  | literal l => exact ⟨_, rfl⟩
  | var name => simp [Term.check] at h

theorem exists_cells (vars : List String) {α : Type} {write : Term → Except WriteError α}
    (hwrite : ∀ {t : Term}, t.check = .ok () → ∃ v, write t = .ok v) (h : row.Checked) :
    ∃ cs, cells write vars row = .ok cs := by
  refine exists_mapM_eq_ok.2 fun c hc => ?_
  obtain ⟨name, -, hc⟩ := List.mem_filterMap.1 hc
  obtain ⟨value, hvalue, rfl⟩ := Option.map_eq_some_iff.1 hc
  obtain ⟨v, hv⟩ := hwrite (h _ (Dictionary.mem_of_get? hvalue))
  exact exists_bind_eq_ok.2 ⟨v, hv, _, rfl⟩

theorem exists_rowJson (vars : List String) (h : row.Checked) : ∃ v, rowJson vars row = .ok v := by
  obtain ⟨cs, hcs⟩ := exists_cells vars exists_termJson h
  exact exists_bind_eq_ok.2 ⟨cs, hcs, _, rfl⟩

theorem exists_rowXml (vars : List String) (h : row.Checked) : ∃ v, rowXml vars row = .ok v := by
  obtain ⟨cs, hcs⟩ := exists_cells vars exists_termXml h
  exact exists_bind_eq_ok.2 ⟨cs, hcs, _, rfl⟩

theorem Delimited.exists_row (d : Delimited) (vars : List String) (h : row.Checked) :
    ∃ text, d.row vars row = .ok text := by
  have hcell : ∀ v ∈ vars, ∃ text, d.cell (row.get? v) = .ok text := by
    intro v _
    cases hvalue : row.get? v with
    | none => exact ⟨"", rfl⟩
    | some t => exact exists_bind_eq_ok.2 ⟨(), h _ (Dictionary.mem_of_get? hvalue), _, rfl⟩
  obtain ⟨fields, hfields⟩ := exists_mapM_eq_ok.2 hcell
  exact exists_bind_eq_ok.2 ⟨fields, hfields, _, rfl⟩

theorem Delimited.exists_write (d : Delimited) {vars : List String} {rows : List Binding}
    (h : ∀ row ∈ rows, row.Checked) : ∃ body, d.write (.solutions vars rows) = .ok body := by
  obtain ⟨rs, hrs⟩ := exists_mapM_eq_ok.2 fun row hrow => d.exists_row vars (h row hrow)
  exact exists_bind_eq_ok.2 ⟨rs, hrs, _, rfl⟩

end Results

open Results

theorem exists_writeAnswer_solutions {vars : List String} {rows : List Binding}
    (h : ∀ row ∈ rows, row.Checked) (format : ResultsFormat) :
    ∃ body, writeAnswer (.solutions vars rows) format = .ok body := by
  cases format with
  | json =>
    obtain ⟨rs, hrs⟩ := exists_mapM_eq_ok.2 fun row hrow =>
      exists_rowJson vars (h row hrow)
    have hjson : ∃ v, json (.solutions vars rows) = .ok v := exists_bind_eq_ok.2 ⟨rs, hrs, _, rfl⟩
    obtain ⟨v, hv⟩ := hjson
    exact exists_bind_eq_ok.2 ⟨v, hv, _, rfl⟩
  | xml =>
    obtain ⟨rs, hrs⟩ := exists_mapM_eq_ok.2 fun row hrow =>
      exists_rowXml vars (h row hrow)
    have hxml : ∃ v, xml (.solutions vars rows) = .ok v := exists_bind_eq_ok.2 ⟨rs, hrs, _, rfl⟩
    obtain ⟨v, hv⟩ := hxml
    exact exists_bind_eq_ok.2 ⟨v, hv, _, rfl⟩
  | csv => exact Delimited.csv.exists_write h
  | tsv => exact Delimited.tsv.exists_write h

theorem exists_writeAnswer_boolean (value : Bool) (format : ResultsFormat) :
    ∃ body, writeAnswer (.boolean value) format = .ok body := by
  cases format <;> exact ⟨_, rfl⟩

end LinkedRaces
