import LinkedRaces.Proofs.Results.Delimited

/-!
Tab-separated values. A line ends with a line feed, a tab stands between cells, and both, like the
carriage return and the backslash, are escaped inside of a cell. So a table can be read back from
its text, but for the record whose only cell is empty: it is written as two quotes, and so is the
record whose only cell is two quotes.
-/

namespace LinkedRaces.Results.Tsv

open Delimited (escapeTsvChar)

def unescape : List Char → List Char
  | '\\' :: '\\' :: cs => '\\' :: unescape cs
  | '\\' :: 't' :: cs => '\t' :: unescape cs
  | '\\' :: 'n' :: cs => '\n' :: unescape cs
  | '\\' :: 'r' :: cs => '\r' :: unescape cs
  | c :: cs => c :: unescape cs
  | [] => []

def read (text : String) : List (List String) :=
  (text.toList.splitOn '\n').dropLast.map fun line =>
    (line.splitOn '\t').map fun cell => String.ofList (unescape cell)

/-- The record that a reader finds in the line of a record. -/
def shown (r : List String) : List String := if r = [""] then ["\"\""] else r

theorem unescape_cons {c : Char} (h : c ≠ '\\') (cs : List Char) :
    unescape (c :: cs) = c :: unescape cs := by
  conv_lhs => unfold unescape
  split <;> simp_all

theorem escapeTsvChar_eq {c : Char} (hslash : c ≠ '\\') (htab : c ≠ '\t') (hfeed : c ≠ '\n')
    (hreturn : c ≠ '\r') : escapeTsvChar c = [c] := by
  unfold escapeTsvChar
  split <;> simp_all

theorem unescape_escape (cs : List Char) : unescape (cs.flatMap escapeTsvChar) = cs := by
  induction cs with
  | nil => rfl
  | cons c cs ih =>
    rw [List.flatMap_cons]
    by_cases hslash : c = '\\'
    · subst hslash
      exact congrArg ('\\' :: ·) ih
    by_cases htab : c = '\t'
    · subst htab
      exact congrArg ('\t' :: ·) ih
    by_cases hfeed : c = '\n'
    · subst hfeed
      exact congrArg ('\n' :: ·) ih
    by_cases hreturn : c = '\r'
    · subst hreturn
      exact congrArg ('\r' :: ·) ih
    rw [escapeTsvChar_eq hslash htab hfeed hreturn, List.singleton_append, unescape_cons hslash, ih]

theorem notMem_escape (cs : List Char) :
    '\t' ∉ cs.flatMap escapeTsvChar ∧ '\n' ∉ cs.flatMap escapeTsvChar := by
  have hchar (c : Char) : '\t' ∉ escapeTsvChar c ∧ '\n' ∉ escapeTsvChar c := by
    unfold escapeTsvChar
    split <;> simp_all [eq_comm]
  constructor <;> intro h
  · obtain ⟨c, -, hc⟩ := List.mem_flatMap.1 h
    exact (hchar c).1 hc
  · obtain ⟨c, -, hc⟩ := List.mem_flatMap.1 h
    exact (hchar c).2 hc

theorem escape_eq_empty_iff {s : String} : Delimited.tsv.escape s = "" ↔ s = "" := by
  refine ⟨fun h => ?_, by rintro rfl; rfl⟩
  have hchars : s.toList.flatMap escapeTsvChar = [] := by
    simpa [Delimited.escape] using String.toList_eq_nil_iff.2 h
  rw [← String.toList_eq_nil_iff, ← unescape_escape s.toList, hchars]
  rfl

def lineChars (r : List String) : List Char :=
  ['\t'].intercalate ((shown r).map fun s => s.toList.flatMap escapeTsvChar)

theorem toList_recordLine {r : List String} (hne : r ≠ []) :
    (Delimited.tsv.recordLine r).toList = lineChars r ++ ['\n'] := by
  have hempty : r.map Delimited.tsv.escape = [""] ↔ r = [""] := by
    rw [List.map_eq_singleton_iff]
    constructor
    · rintro ⟨s, rfl, hs⟩
      rw [escape_eq_empty_iff.1 hs]
    · rintro rfl
      exact ⟨"", rfl, rfl⟩
  rw [Delimited.recordLine, Delimited.toList_line (by simpa using hne), lineChars, shown]
  simp only [hempty]
  split
  · rfl
  · rw [List.map_map]
    simp only [Function.comp_def, Delimited.field, Delimited.escape, String.toList_ofList]
    rfl

theorem notMem_lineChars (r : List String) : '\n' ∉ lineChars r := by
  have hchars : ∀ c ∈ lineChars r, c ≠ '\n' := by
    refine Text.forall_mem_intercalate (by simp) fun part hpart c hc => ?_
    obtain ⟨s, -, rfl⟩ := List.mem_map.1 hpart
    exact ne_of_mem_of_not_mem hc (notMem_escape s.toList).2
  exact fun h => hchars _ h rfl

theorem shown_ne_nil {r : List String} (hne : r ≠ []) : shown r ≠ [] := by
  unfold shown
  split
  · exact List.cons_ne_nil _ _
  · exact hne

theorem splitOn_lineChars {r : List String} (hne : r ≠ []) :
    ((lineChars r).splitOn '\t').map (fun cell => String.ofList (unescape cell)) = shown r := by
  have hcells : ∀ cell ∈ (shown r).map fun s => s.toList.flatMap escapeTsvChar, '\t' ∉ cell := by
    intro cell hcell
    obtain ⟨s, -, rfl⟩ := List.mem_map.1 hcell
    exact (notMem_escape s.toList).1
  rw [lineChars, List.splitOn_intercalate '\t' hcells (by simpa using shown_ne_nil hne),
    List.map_map]
  simp [Function.comp_def, unescape_escape]

theorem toList_lines {table : List (List String)} (hne : ∀ r ∈ table, r ≠ []) :
    (String.join (table.map Delimited.tsv.recordLine)).toList =
      ['\n'].intercalate (table.map lineChars ++ [[]]) := by
  rw [String.toList_join, List.flatMap_map, Text.intercalate_ends, List.flatMap_map]
  exact List.flatMap_congr fun r hr => toList_recordLine (hne r hr)

theorem read_lines {table : List (List String)} (hne : ∀ r ∈ table, r ≠ []) :
    read (String.join (table.map Delimited.tsv.recordLine)) = table.map shown := by
  have hlines : ∀ line ∈ table.map lineChars ++ [[]], '\n' ∉ line := by
    simp only [List.forall_mem_append, List.forall_mem_map, List.forall_mem_singleton]
    exact ⟨fun r _ => notMem_lineChars r, List.not_mem_nil⟩
  rw [read, toList_lines hne, List.splitOn_intercalate '\n' hlines (by simp), List.dropLast_concat,
    List.map_map]
  exact List.map_congr_left fun r hr => splitOn_lineChars (hne r hr)

/-- Tables are told apart by their texts as far as a reader can tell their records apart. -/
theorem lines_eq_iff {table table' : List (List String)} (hne : ∀ r ∈ table, r ≠ [])
    (hne' : ∀ r ∈ table', r ≠ []) :
    String.join (table.map Delimited.tsv.recordLine) =
      String.join (table'.map Delimited.tsv.recordLine) ↔ table.map shown = table'.map shown := by
  refine ⟨fun h => ?_, fun h => ?_⟩
  · rw [← read_lines hne, h, read_lines hne']
  · have hchars (ts : List (List String)) : ts.map lineChars = (ts.map shown).map fun r =>
        ['\t'].intercalate (r.map fun s => s.toList.flatMap escapeTsvChar) := by
      rw [List.map_map]
      rfl
    rw [← String.toList_inj, toList_lines hne, toList_lines hne', hchars, hchars, h]

structure Tabular (vars : List String) (rows : List Binding) : Prop where
  nonempty : vars ≠ []
  named : ∀ name ∈ vars, ∀ c ∈ name.toList, Scanner.isNameChar c
  checked : ∀ row ∈ rows, row.Checked

theorem escape_name {name : String} (h : ∀ c ∈ name.toList, Scanner.isNameChar c) :
    Delimited.tsv.escape name = name := by
  have hchars : name.toList.flatMap escapeTsvChar = name.toList.flatMap fun c => [c] := by
    refine List.flatMap_congr fun c hc => escapeTsvChar_eq ?_ ?_ ?_ ?_
    all_goals
      rintro rfl
      exact absurd (h _ hc) (by decide)
  rw [Delimited.escape, hchars, List.flatMap_singleton', String.ofList_toList]

variable {vars : List String} {rows : List Binding}

namespace Tabular

theorem write_eq_ok (h : Tabular vars rows) :
    writeAnswer (.solutions vars rows) .tsv =
      .ok (String.join ((records vars rows).map Delimited.tsv.recordLine)) := by
  refine Delimited.write_eq_ok ?_ h.checked
  calc vars.map Delimited.tsv.escape
      = vars.map id := List.map_congr_left fun name hname => escape_name (h.named name hname)
    _ = vars := List.map_id vars

theorem records_ne_nil (h : Tabular vars rows) : ∀ r ∈ records vars rows, r ≠ [] := by
  simp [records, h.nonempty]

end Tabular

/-- An answer is written, and its table is read back with each record as it is shown. That is the
table itself, unless some record has one cell only and that is empty. Another answer has the same
text just when its records are shown alike. -/
theorem read_eq_shown (h : Tabular vars rows) :
    ∃ text, writeAnswer (.solutions vars rows) .tsv = .ok text ∧
      read text = (records vars rows).map shown ∧
      ([""] ∉ records vars rows → read text = records vars rows) ∧
      ∀ vars' rows', Tabular vars' rows' →
        (writeAnswer (.solutions vars' rows') .tsv = .ok text ↔
          (records vars' rows').map shown = (records vars rows).map shown) := by
  have hread := read_lines h.records_ne_nil
  refine ⟨_, h.write_eq_ok, hread, fun hnone => ?_, fun vars' rows' h' => ?_⟩
  · have hshown : ∀ r ∈ records vars rows, shown r = id r := by
      intro r hr
      exact if_neg fun hempty : r = [""] => hnone (hempty ▸ hr)
    rw [hread, List.map_congr_left hshown, List.map_id]
  · rw [h'.write_eq_ok, Except.ok.injEq]
    exact lines_eq_iff h'.records_ne_nil h.records_ne_nil

theorem read_eq_shown_notes :
    let rows : List Binding :=
      [Dictionary.ofList [("note", .literal (.plain "5K\t\"fun\"\nrun"))], .empty]
    Tabular ["note"] rows ∧ ∃ text, writeAnswer (.solutions ["note"] rows) .tsv = .ok text ∧
      read text = [["note"], ["5K\t\"fun\"\nrun"], ["\"\""]] := by
  intro rows
  have htabular : Tabular ["note"] rows := by
    have hnamed : "note".toList.all Scanner.isNameChar := by decide +kernel
    have hchecked : ∀ row ∈ rows, ∀ e ∈ row.entries, e.2.check = .ok () := by decide +kernel
    exact ⟨by decide, List.forall_mem_singleton.2 (List.all_eq_true.1 hnamed), hchecked⟩
  obtain ⟨text, htext, hread, -⟩ := read_eq_shown htabular
  have hshown : (records ["note"] rows).map shown =
      [["note"], ["5K\t\"fun\"\nrun"], ["\"\""]] := by
    decide +kernel
  exact ⟨htabular, text, htext, hread.trans hshown⟩

/-- In a line of its own, an unbound variable cannot be told from two quotes. -/
theorem unbound_shown_quoted :
    let quotes : Binding := Dictionary.ofList [("x", .literal (.plain "\"\""))]
    writeAnswer (.solutions ["x"] [.empty]) .tsv = .ok "x\n\"\"\n" ∧
      writeAnswer (.solutions ["x"] [quotes]) .tsv = .ok "x\n\"\"\n" ∧
      read "x\n\"\"\n" = [["x"], ["\"\""]] ∧ records ["x"] [.empty] = [["x"], [""]] := by
  decide +kernel

end LinkedRaces.Results.Tsv
