import LinkedRaces.Proofs.Results.Writer
import LinkedRaces.Proofs.Text.Joined

/-!
Answers as lines of cells. What a writer makes of a table is one line for each record, the variables
first; how the cells of a line are told apart is the matter of each format.
-/

namespace LinkedRaces.Results

def records (vars : List String) (rows : List Binding) : List (List String) :=
  vars :: rows.map fun row => vars.map (valueText row)

namespace Delimited

variable {d : Delimited} {vars : List String} {rows : List Binding}

def escape : Delimited → String → String
  | csv, s => s
  | tsv, s => String.ofList (s.toList.flatMap escapeTsvChar)

def recordLine (d : Delimited) (r : List String) : String := d.line (r.map d.escape)

theorem cellText_eq (d : Delimited) (t : Term) : d.cellText t = d.escape t.stringValue := by
  cases d <;> rfl

theorem escape_empty (d : Delimited) : d.escape "" = "" := by
  cases d <;> rfl

theorem cell_eq_ok (d : Delimited) {row : Binding} (h : row.Checked) (name : String) :
    d.cell (row.get? name) = .ok (d.escape (valueText row name)) := by
  cases hvalue : row.get? name with
  | none =>
    rw [valueText, hvalue]
    exact congrArg Except.ok d.escape_empty.symm
  | some t =>
    have hcheck : t.check = .ok () := h _ (Dictionary.mem_of_get? hvalue)
    rw [valueText, hvalue, cell, hcheck, cellText_eq]
    rfl

theorem row_eq_ok (d : Delimited) {row : Binding} (h : row.Checked) (vars : List String) :
    d.row vars row = .ok (d.recordLine (vars.map (valueText row))) := by
  rw [Delimited.row, mapM_eq_ok fun name _ => d.cell_eq_ok h name, recordLine, List.map_map]
  rfl

theorem write_eq_ok (hvars : vars.map d.escape = vars) (h : ∀ row ∈ rows, row.Checked) :
    d.write (.solutions vars rows) =
      .ok (String.join ((records vars rows).map d.recordLine)) := by
  rw [write, mapM_eq_ok fun row hrow => d.row_eq_ok (h row hrow) vars, records, List.map_cons,
    List.map_map, recordLine, hvars]
  rfl

theorem field_eq_empty_iff (d : Delimited) {s : String} : d.field s = "" ↔ s = "" := by
  cases d with
  | tsv => rfl
  | csv =>
    by_cases hquotes : s.toList.any needsQuotes
    · have hne : s ≠ "" := by
        rintro rfl
        simp at hquotes
      rw [field, if_pos hquotes, ← String.toList_eq_nil_iff]
      simp [hne]
    · rw [field, if_neg hquotes]

theorem toList_line {fields : List String} (hne : fields ≠ []) :
    (d.line fields).toList =
      (if fields = [""] then ['"', '"']
        else d.separator.toList.intercalate (fields.map fun s => (d.field s).toList)) ++
        d.lineEnd.toList := by
  have hsep : d.separator ≠ "" := by cases d <;> decide
  have hfields : fields.map d.field = [""] ↔ fields = [""] := by
    rw [List.map_eq_singleton_iff]
    constructor
    · rintro ⟨s, rfl, hs⟩
      rw [(field_eq_empty_iff d).1 hs]
    · rintro rfl
      exact ⟨"", rfl, (field_eq_empty_iff d).2 rfl⟩
  have hempty : (Text.join d.separator (fields.map d.field)).isEmpty ↔ fields = [""] := by
    rw [String.isEmpty_iff, Text.join_eq_empty_iff hsep (by simpa using hne), hfields]
  rw [line, String.toList_append]
  simp only [hempty]
  split
  · rfl
  · rw [Text.join, String.toList_intercalate, List.map_map]
    rfl

end Delimited

end LinkedRaces.Results
