import LinkedRaces.Proofs.Results.Delimited

/-!
Comma-separated values as RFC 4180 has them: records end with a carriage return and a line feed,
fields stand between commas, and a field between quotes may hold all of these, and a quote if it is
written twice. What is written as comma-separated cells is read as the table that it was.
-/

namespace LinkedRaces.Results.Csv

def isTextData (c : Char) : Bool := c != ',' && c != '"' && c != '\r' && c != '\n'

inductive Place
  | line
  | field
  | plain
  | quoted
  /-- After a quote between quotes: the first of two, or the end of the field. -/
  | quote
  | lineEnd
deriving DecidableEq

structure Reader where
  records : List (List String)
  fields : List String
  text : List Char
  place : Place

namespace Reader

def start : Reader := ⟨[], [], [], .line⟩

def add (r : Reader) (c : Char) (place : Place) : Reader :=
  { r with text := r.text ++ [c], place }

def endField (r : Reader) (place : Place) : Reader :=
  { r with fields := r.fields ++ [String.ofList r.text], text := [], place }

def endRecord (r : Reader) : Reader :=
  { r with
    records := if r.fields = [] then r.records else r.records ++ [r.fields]
    fields := []
    place := .line }

def separate (r : Reader) (c : Char) : Option Reader :=
  if c = ',' then some (r.endField .field)
  else if c = '\r' then some (r.endField .lineEnd)
  else none

def unquoted (r : Reader) (c : Char) : Option Reader :=
  if isTextData c then some (r.add c .plain) else r.separate c

/-- One more character, if the grammar has a place for it. Readers do not agree about an empty line:
it is a record with one empty field, or is skipped. -/
def step (skipEmpty : Bool) (r : Reader) (c : Char) : Option Reader :=
  match r.place with
  | .line =>
    if c = '"' then some { r with place := .quoted }
    else if skipEmpty ∧ c = '\r' then some { r with place := .lineEnd }
    else r.unquoted c
  | .field => if c = '"' then some { r with place := .quoted } else r.unquoted c
  | .plain => r.unquoted c
  | .quoted => some (if c = '"' then { r with place := .quote } else r.add c .quoted)
  | .quote => if c = '"' then some (r.add c .quoted) else r.separate c
  | .lineEnd => if c = '\n' then some r.endRecord else none

def run (skipEmpty : Bool) (r : Reader) (cs : List Char) : Option Reader :=
  cs.foldlM (step skipEmpty) r

def finish (r : Reader) : Option (List (List String)) :=
  match r.place with
  | .line => some r.records
  | .quoted | .lineEnd => none
  | .field | .plain | .quote => some (r.records ++ [(r.endField .line).fields])

end Reader

def read (skipEmpty : Bool) (text : String) : Option (List (List String)) :=
  (Reader.start.run skipEmpty text.toList).bind Reader.finish

namespace Reader

variable (skipEmpty : Bool) (r : Reader)

theorem run_append (as bs : List Char) :
    r.run skipEmpty (as ++ bs) = (r.run skipEmpty as).bind (·.run skipEmpty bs) :=
  List.foldlM_append

theorem run_cons (c : Char) (cs : List Char) :
    r.run skipEmpty (c :: cs) = (r.step skipEmpty c).bind (·.run skipEmpty cs) :=
  List.foldlM_cons

theorem run_plain (h : r.place = .plain) {cs : List Char} (hcs : ∀ c ∈ cs, isTextData c) :
    r.run skipEmpty cs = some { r with text := r.text ++ cs } := by
  induction cs generalizing r with
  | nil => simp [run]
  | cons c cs ih =>
    obtain ⟨hc, hcs⟩ := List.forall_mem_cons.1 hcs
    have hstep : r.step skipEmpty c = some (r.add c .plain) := by
      simp only [step, h, unquoted, if_pos hc]
    rw [run_cons, hstep, Option.bind_some, ih (r.add c .plain) rfl hcs]
    simp [add, h]

theorem run_quoted (h : r.place = .quoted) (cs : List Char) :
    r.run skipEmpty (cs.flatMap Delimited.quoteChar) = some { r with text := r.text ++ cs } := by
  induction cs generalizing r with
  | nil => simp [run]
  | cons c cs ih =>
    have hchar : r.run skipEmpty (Delimited.quoteChar c) = some (r.add c .quoted) := by
      by_cases hc : c = '"'
      · subst hc
        simp [Delimited.quoteChar, run, step, h, add]
      · simp [Delimited.quoteChar, run, step, h, hc]
    rw [List.flatMap_cons, run_append, hchar, Option.bind_some, ih (r.add c .quoted) rfl]
    simp [add, h]

structure Opens (r : Reader) : Prop where
  text : r.text = []
  place : r.place = .line ∨ r.place = .field

theorem isTextData_of_not_needsQuotes {c : Char} (h : ¬ Delimited.needsQuotes c) :
    isTextData c := by
  simpa [Delimited.needsQuotes, isTextData, and_assoc] using h

theorem run_field (h : r.Opens) (v : String) :
    ∃ place, r.run skipEmpty (Delimited.csv.field v).toList =
        some { r with text := v.toList, place } ∧
      (place = .plain ∨ place = .quote ∨ v = "" ∧ place = r.place) := by
  by_cases hquotes : v.toList.any Delimited.needsQuotes
  · have hopen : r.step skipEmpty '"' = some { r with place := .quoted } := by
      rcases h.place with hplace | hplace <;> simp [step, hplace]
    have hclose : ({ r with text := v.toList, place := .quoted } : Reader).run skipEmpty ['"'] =
        some { r with text := v.toList, place := .quote } := rfl
    have hfield : (Delimited.csv.field v).toList =
        '"' :: (v.toList.flatMap Delimited.quoteChar ++ ['"']) := by
      simp [Delimited.field, hquotes]
    refine ⟨.quote, ?_, .inr (.inl rfl)⟩
    rw [hfield, run_cons, hopen, Option.bind_some, run_append, run_quoted _ _ rfl, Option.bind_some,
      ← hclose, h.text]
    rfl
  · have hfield : Delimited.csv.field v = v := if_neg hquotes
    have htext : ∀ c ∈ v.toList, isTextData c := by
      intro c hc
      exact isTextData_of_not_needsQuotes fun hneeds => hquotes (List.any_eq_true.2 ⟨c, hc, hneeds⟩)
    rw [hfield]
    cases hv : v.toList with
    | nil =>
      obtain ⟨records, fields, text, place⟩ := r
      obtain rfl : text = [] := h.text
      exact ⟨place, rfl, .inr (.inr ⟨String.toList_eq_nil_iff.1 hv, rfl⟩)⟩
    | cons c cs =>
      rw [hv] at htext
      obtain ⟨hc, hcs⟩ := List.forall_mem_cons.1 htext
      have hfirst : r.step skipEmpty c = some (r.add c .plain) := by
        have hquote : c ≠ '"' := by
          rintro rfl
          simp [isTextData] at hc
        have hreturn : c ≠ '\r' := by
          rintro rfl
          simp [isTextData] at hc
        rcases h.place with hplace | hplace <;> simp [step, hplace, hquote, hreturn, unquoted, hc]
      refine ⟨.plain, ?_, .inl rfl⟩
      rw [run_cons, hfirst, Option.bind_some, run_plain skipEmpty (r.add c .plain) rfl hcs]
      simp [add, h.text]

theorem step_comma (h : r.place ≠ .quoted ∧ r.place ≠ .lineEnd) :
    r.step skipEmpty ',' = some (r.endField .field) := by
  obtain ⟨hquoted, hlineEnd⟩ := h
  cases hplace : r.place with
  | quoted => exact absurd hplace hquoted
  | lineEnd => exact absurd hplace hlineEnd
  | _ => simp [step, hplace, unquoted, isTextData, separate]

theorem run_lineEnd (h : r.place = .field ∨ r.place = .plain ∨ r.place = .quote)
    (rest : List Char) :
    r.run skipEmpty ('\r' :: '\n' :: rest) =
      (⟨r.records ++ [r.fields ++ [String.ofList r.text]], [], [], .line⟩ : Reader).run skipEmpty
        rest := by
  have hreturn : r.step skipEmpty '\r' = some (r.endField .lineEnd) := by
    rcases h with hplace | hplace | hplace <;> simp [step, hplace, unquoted, isTextData, separate]
  have hfeed : (r.endField .lineEnd).step skipEmpty '\n' =
      some ⟨r.records ++ [r.fields ++ [String.ofList r.text]], [], [], .line⟩ := by
    simp [step, endField, endRecord]
  rw [run_cons, hreturn, Option.bind_some, run_cons, hfeed, Option.bind_some]

theorem run_field_comma (h : r.Opens) (v : String) (rest : List Char) :
    r.run skipEmpty ((Delimited.csv.field v).toList ++ ',' :: rest) =
      (⟨r.records, r.fields ++ [v], [], .field⟩ : Reader).run skipEmpty rest := by
  obtain ⟨place, hfield, hplace⟩ := r.run_field skipEmpty h v
  have hinside : place ≠ .quoted ∧ place ≠ .lineEnd := by
    rcases hplace with rfl | rfl | ⟨-, rfl⟩
    · decide
    · decide
    · rcases h.place with hline | hfield <;> simp [*]
  rw [run_append, hfield, Option.bind_some, run_cons, step_comma _ _ hinside, Option.bind_some]
  simp [endField]

theorem run_field_lineEnd (h : r.Opens) {v : String} (hne : r.place = .line → v ≠ "")
    (rest : List Char) :
    r.run skipEmpty ((Delimited.csv.field v).toList ++ '\r' :: '\n' :: rest) =
      (⟨r.records ++ [r.fields ++ [v]], [], [], .line⟩ : Reader).run skipEmpty rest := by
  obtain ⟨place, hfield, hplace⟩ := r.run_field skipEmpty h v
  have hinside : place = .field ∨ place = .plain ∨ place = .quote := by
    rcases hplace with hplace | hplace | ⟨rfl, hplace⟩
    · exact .inr (.inl hplace)
    · exact .inr (.inr hplace)
    · rcases h.place with hline | hfield
      · exact absurd rfl (hne hline)
      · exact .inl (hplace.trans hfield)
  rw [run_append, hfield, Option.bind_some, run_lineEnd _ _ hinside]
  simp

theorem run_fields (h : r.Opens) (v : String) (vs : List String)
    (hne : r.place = .line → v :: vs ≠ [""]) (rest : List Char) :
    r.run skipEmpty ([','].intercalate ((v :: vs).map fun s => (Delimited.csv.field s).toList) ++
        '\r' :: '\n' :: rest) =
      (⟨r.records ++ [r.fields ++ v :: vs], [], [], .line⟩ : Reader).run skipEmpty rest := by
  induction vs generalizing r v with
  | nil =>
    have hv : r.place = .line → v ≠ "" := by simpa using hne
    rw [List.map_singleton, List.intercalate_singleton, run_field_lineEnd _ _ h hv]
  | cons w vs ih =>
    have hnext : Opens ⟨r.records, r.fields ++ [v], [], .field⟩ := ⟨rfl, .inr rfl⟩
    have hrest := ih _ hnext w nofun
    rw [List.map_cons, List.map_cons, List.intercalate_cons_cons, List.append_assoc,
      List.append_assoc, List.singleton_append, run_field_comma _ _ h]
    simpa using hrest

theorem run_line (records : List (List String)) {fields : List String} (hne : fields ≠ [])
    (rest : List Char) :
    (⟨records, [], [], .line⟩ : Reader).run skipEmpty
        ((Delimited.csv.line fields).toList ++ rest) =
      (⟨records ++ [fields], [], [], .line⟩ : Reader).run skipEmpty rest := by
  rw [Delimited.toList_line hne]
  split
  next hempty =>
    rw [hempty]
    rfl
  next hempty =>
    obtain ⟨v, vs, rfl⟩ := List.exists_cons_of_ne_nil hne
    rw [List.append_assoc]
    exact run_fields skipEmpty _ ⟨rfl, .inl rfl⟩ v vs (fun _ => hempty) rest

theorem run_lines (done : List (List String)) {table : List (List String)}
    (hne : ∀ fields ∈ table, fields ≠ []) :
    (⟨done, [], [], .line⟩ : Reader).run skipEmpty
        (String.join (table.map Delimited.csv.line)).toList =
      some ⟨done ++ table, [], [], .line⟩ := by
  rw [String.toList_join, List.flatMap_map]
  induction table generalizing done with
  | nil => simp [run]
  | cons fields table ih =>
    obtain ⟨hfields, htable⟩ := List.forall_mem_cons.1 hne
    rw [List.flatMap_cons, run_line skipEmpty done hfields, ih _ htable]
    simp

end Reader

/-- Whatever a reader makes of empty lines, it finds the table that was written. -/
theorem read_lines (skipEmpty : Bool) {table : List (List String)}
    (hne : ∀ fields ∈ table, fields ≠ []) :
    read skipEmpty (String.join (table.map Delimited.csv.line)) = some table := by
  rw [read, Reader.start, Reader.run_lines skipEmpty [] hne]
  rfl

example : read true "\r\n\"\"\r\n" = some [[""]] := by rfl

/-- An answer with at least one variable whose values pass the check is written, and read back: the
variables, then for each row in order the text of each value, which is empty where there is none. -/
theorem read_writeAnswer {vars : List String} {rows : List Binding} (hvars : vars ≠ [])
    (hrows : ∀ row ∈ rows, row.Checked) :
    ∃ text, writeAnswer (.solutions vars rows) .csv = .ok text ∧
      ∀ skipEmpty, read skipEmpty text = some (records vars rows) := by
  have hescape (fields : List String) : fields.map Delimited.csv.escape = fields :=
    List.map_id fields
  have hlines : (records vars rows).map Delimited.csv.recordLine =
      (records vars rows).map Delimited.csv.line :=
    List.map_congr_left fun fields _ => congrArg Delimited.csv.line (hescape fields)
  have hne : ∀ fields ∈ records vars rows, fields ≠ [] := by
    simp [records, hvars]
  refine ⟨_, Delimited.write_eq_ok (hescape vars) hrows, fun skipEmpty => ?_⟩
  rw [hlines]
  exact read_lines skipEmpty hne

theorem read_writeAnswer_notes :
    let rows : List Binding :=
      [Dictionary.ofList [("note", .literal (.plain "5K, \"fun\"\r\nrun"))], .empty]
    (["note"] ≠ [] ∧ ∀ row ∈ rows, row.Checked) ∧
    ∃ text, writeAnswer (.solutions ["note"] rows) .csv = .ok text ∧
      ∀ skipEmpty, read skipEmpty text = some [["note"], ["5K, \"fun\"\r\nrun"], [""]] := by
  intro rows
  have hrows : ∀ row ∈ rows, ∀ e ∈ row.entries, e.2.check = .ok () := by decide +kernel
  obtain ⟨text, htext, hread⟩ := @read_writeAnswer ["note"] rows (by decide) hrows
  have hrecords : records ["note"] rows = [["note"], ["5K, \"fun\"\r\nrun"], [""]] := by
    decide +kernel
  exact ⟨⟨by decide, hrows⟩, text, htext, hrecords ▸ hread⟩

end LinkedRaces.Results.Csv
