import LinkedRaces.Number.Integer
import LinkedRaces.Xml.Element
import Mathlib.Data.List.Infix

/-!
Values as a reader of XML 1.0 finds them: line ends are normalized first, references are replaced,
and white space in an attribute becomes a space unless a reference stands for it. What an element or
an attribute writes is the value itself where it has legal characters only, but for the carriage
returns in the text of an element, which nothing protects from the first of these steps.
-/

namespace LinkedRaces.Xml

def isChar (c : Char) : Bool :=
  c == '\t' || c == '\n' || c == '\r' || (0x20 ≤ c.toNat && c.toNat ≤ 0xD7FF) ||
    (0xE000 ≤ c.toNat && c.toNat ≤ 0xFFFD) || 0x10000 ≤ c.toNat

/-- A carriage return counts as a line feed, or as nothing before one. -/
def normalizeLineEnds : List Char → List Char
  | [] => []
  | c :: cs =>
    if c = '\r' then
      if cs.head? = some '\n' then normalizeLineEnds cs else '\n' :: normalizeLineEnds cs
    else c :: normalizeLineEnds cs

def namedCharacter? (name : List Char) : Option Char :=
  [("amp", '&'), ("lt", '<'), ("gt", '>'), ("quot", '"'), ("apos", '\'')].lookup (String.ofList name)

def reference? : List Char → Option Char
  | '#' :: 'x' :: digits => ((Number.readHex? digits).bind Number.scalar?).filter isChar
  | '#' :: digits => ((Number.readDigits? digits).bind Number.scalar?).filter isChar
  | name => namedCharacter? name

/-- The characters after all references are replaced; `plain` says what any other one becomes. In a
reference, `pending` holds what has been read of its name, the last character first. -/
def expand? (plain : Char → Option Char) : Option (List Char) → List Char → Option (List Char)
  | none, [] => some []
  | some _, [] => none
  | none, c :: cs =>
    if c = '&' then expand? plain (some []) cs
    else (plain c).bind fun value => (expand? plain none cs).map (value :: ·)
  | some pending, c :: cs =>
    if c = ';' then
      (reference? pending.reverse).bind fun value => (expand? plain none cs).map (value :: ·)
    else expand? plain (some (c :: pending)) cs

def textChar? (c : Char) : Option Char := if isChar c && c != '<' then some c else none

def attributeChar? (c : Char) : Option Char :=
  if isChar c && c != '<' && c != '"' then some (if c = '\t' || c = '\n' || c = '\r' then ' ' else c)
  else none

def readText? (text : String) : Option String :=
  let cs := normalizeLineEnds text.toList
  if "]]>".toList <:+: cs then none else (expand? textChar? none cs).map String.ofList

def readAttribute? (text : String) : Option String :=
  (expand? attributeChar? none (normalizeLineEnds text.toList)).map String.ofList

theorem return_notMem_normalizeLineEnds (cs : List Char) : '\r' ∉ normalizeLineEnds cs := by
  induction cs with
  | nil => exact List.not_mem_nil
  | cons c cs ih =>
    unfold normalizeLineEnds
    split
    · split
      · exact ih
      · simpa using ih
    next hc => simpa [eq_comm] using ⟨hc, ih⟩

theorem normalizeLineEnds_eq_self_iff {cs : List Char} :
    normalizeLineEnds cs = cs ↔ '\r' ∉ cs := by
  refine ⟨fun h => h ▸ return_notMem_normalizeLineEnds cs, fun h => ?_⟩
  induction cs with
  | nil => rfl
  | cons c cs ih =>
    obtain ⟨hc, hcs⟩ := not_or.1 (mt List.mem_cons.2 h)
    rw [normalizeLineEnds, if_neg (Ne.symm hc), ih hcs]

theorem all_isChar_normalizeLineEnds (cs : List Char) :
    (normalizeLineEnds cs).all isChar = cs.all isChar := by
  have hreturn : isChar '\r' = true := by decide
  have hfeed : isChar '\n' = true := by decide
  induction cs with
  | nil => rfl
  | cons c cs ih =>
    unfold normalizeLineEnds
    split
    next hc =>
      split
      · rw [ih, List.all_cons, hc, hreturn, Bool.true_and]
      · rw [List.all_cons, List.all_cons, ih, hc, hreturn, hfeed]
    · rw [List.all_cons, List.all_cons, ih]

variable {plain : Char → Option Char} {write : Char → List Char}

theorem expand?_pending (plain : Char → Option Char) {name : List Char} (hname : ';' ∉ name) (pending rest : List Char) :
    expand? plain (some pending) (name ++ ';' :: rest) =
      (reference? (pending.reverse ++ name)).bind fun value =>
        (expand? plain none rest).map (value :: ·) := by
  induction name generalizing pending with
  | nil => simp [expand?]
  | cons c name ih =>
    obtain ⟨hc, hname⟩ := not_or.1 (mt List.mem_cons.2 hname)
    rw [List.cons_append, expand?, if_neg (Ne.symm hc), ih hname]
    simp

inductive Escapes (plain : Char → Option Char) (c : Char) : List Char → Prop
  | reference (name : List Char) (closed : ';' ∉ name) (names : reference? name = some c)
    (legal : isChar c = true) : Escapes plain c ('&' :: name ++ [';'])
  | self (start : c ≠ '&') (read : plain c = if isChar c then some c else none) :
    Escapes plain c [c]

theorem Escapes.expand? {c : Char} {cs : List Char} (h : Escapes plain c cs) (rest : List Char) :
    expand? plain none (cs ++ rest) =
      if isChar c then (Xml.expand? plain none rest).map (c :: ·) else none := by
  cases h with
  | reference name closed names legal =>
    have hread := expand?_pending plain closed [] rest
    rw [List.reverse_nil, List.nil_append, names] at hread
    rw [if_pos legal, List.append_assoc]
    simpa [Xml.expand?] using hread
  | self start read =>
    rw [List.singleton_append, Xml.expand?, if_neg start, read]
    split <;> rfl

/-- Characters are found as they are if all of them are legal, and nothing is found otherwise. -/
theorem expand?_flatMap (h : ∀ c, Escapes plain c (write c)) (cs : List Char) :
    expand? plain none (cs.flatMap write) = if cs.all isChar then some cs else none := by
  induction cs with
  | nil => rfl
  | cons c cs ih =>
    rw [List.flatMap_cons, (h c).expand?, ih, List.all_cons]
    cases isChar c <;> cases cs.all isChar <;> rfl

theorem escapeChar_eq {c : Char} (hamp : c ≠ '&') (hlt : c ≠ '<') (hgt : c ≠ '>') :
    escapeChar c = [c] := by
  unfold escapeChar
  split <;> simp_all

theorem escapes_escapeChar (c : Char) : Escapes textChar? c (escapeChar c) := by
  by_cases hamp : c = '&'
  · subst hamp
    exact .reference "amp".toList (by decide) (by decide) (by decide)
  by_cases hlt : c = '<'
  · subst hlt
    exact .reference "lt".toList (by decide) (by decide) (by decide)
  by_cases hgt : c = '>'
  · subst hgt
    exact .reference "gt".toList (by decide) (by decide) (by decide)
  rw [escapeChar_eq hamp hlt hgt]
  exact .self hamp (by simp [textChar?, hlt])

theorem head?_flatMap_escapeChar (cs : List Char) :
    (cs.flatMap escapeChar).head? = some '\n' ↔ cs.head? = some '\n' := by
  cases cs with
  | nil => exact Iff.rfl
  | cons c cs =>
    rw [List.flatMap_cons]
    unfold escapeChar
    split <;> simp

theorem normalizeLineEnds_append {cs : List Char} (h : '\r' ∉ cs) (rest : List Char) :
    normalizeLineEnds (cs ++ rest) = cs ++ normalizeLineEnds rest := by
  induction cs with
  | nil => rfl
  | cons c cs ih =>
    obtain ⟨hc, hcs⟩ := not_or.1 (mt List.mem_cons.2 h)
    rw [List.cons_append, normalizeLineEnds, if_neg (Ne.symm hc), ih hcs, List.cons_append]

theorem normalizeLineEnds_flatMap_escapeChar (cs : List Char) :
    normalizeLineEnds (cs.flatMap escapeChar) = (normalizeLineEnds cs).flatMap escapeChar := by
  induction cs with
  | nil => rfl
  | cons c cs ih =>
    -- a line feed that follows is still seen, so a return that counted as nothing still does
    by_cases hc : c = '\r'
    · subst hc
      show normalizeLineEnds ('\r' :: cs.flatMap escapeChar) = _
      simp only [normalizeLineEnds, if_true, head?_flatMap_escapeChar, ih]
      split <;> rfl
    · have hescape : '\r' ∉ escapeChar c := by
        unfold escapeChar
        split <;> simp_all [eq_comm]
      rw [List.flatMap_cons, normalizeLineEnds_append hescape, ih, normalizeLineEnds, if_neg hc,
        List.flatMap_cons]

theorem gt_notMem_flatMap_escapeChar (cs : List Char) : '>' ∉ cs.flatMap escapeChar := by
  have hchar (c : Char) : '>' ∉ escapeChar c := by
    unfold escapeChar
    split <;> simp_all [eq_comm]
  intro h
  obtain ⟨c, -, hc⟩ := List.mem_flatMap.1 h
  exact hchar c hc

theorem readText?_escape (s : String) :
    readText? (escape s) =
      if s.toList.all isChar then some (String.ofList (normalizeLineEnds s.toList)) else none := by
  have hclose : ¬ "]]>".toList <:+: (normalizeLineEnds s.toList).flatMap escapeChar := by
    intro hclose
    exact gt_notMem_flatMap_escapeChar _ (hclose.subset (by decide))
  simp only [readText?, escape, String.toList_ofList, normalizeLineEnds_flatMap_escapeChar,
    if_neg hclose, expand?_flatMap escapes_escapeChar, all_isChar_normalizeLineEnds]
  split <;> rfl

theorem readText?_escape_eq_self_iff {s : String} :
    readText? (escape s) = some s ↔ s.toList.all isChar ∧ '\r' ∉ s.toList := by
  rw [readText?_escape]
  split
  next hlegal =>
    rw [Option.some.injEq, ← normalizeLineEnds_eq_self_iff, ← String.toList_inj,
      String.toList_ofList]
    exact (and_iff_right hlegal).symm
  next hlegal => exact iff_of_false nofun fun h => hlegal h.1

theorem escapeAttributeChar_eq {c : Char} (hquote : c ≠ '"') (hfeed : c ≠ '\n') (hreturn : c ≠ '\r')
    (htab : c ≠ '\t') : escapeAttributeChar c = escapeChar c := by
  unfold escapeAttributeChar
  split <;> simp_all

theorem escapes_escapeAttributeChar (c : Char) : Escapes attributeChar? c (escapeAttributeChar c) := by
  by_cases hquote : c = '"'
  · subst hquote
    exact .reference "quot".toList (by decide) (by decide) (by decide)
  by_cases hfeed : c = '\n'
  · subst hfeed
    exact .reference "#10".toList (by decide) (by decide) (by decide)
  by_cases hreturn : c = '\r'
  · subst hreturn
    exact .reference "#13".toList (by decide) (by decide) (by decide)
  by_cases htab : c = '\t'
  · subst htab
    exact .reference "#9".toList (by decide) (by decide) (by decide)
  rw [escapeAttributeChar_eq hquote hfeed hreturn htab]
  -- any other character is written as in a text
  have hread : Escapes textChar? c (escapeChar c) := escapes_escapeChar c
  generalize escapeChar c = cs at hread
  cases hread with
  | reference name closed names legal => exact .reference name closed names legal
  | self start read =>
    have hlt : c ≠ '<' := by
      rintro rfl
      exact absurd read (by decide)
    exact .self start (by simp [attributeChar?, hlt, hquote, hfeed, hreturn, htab])

theorem return_notMem_escapeAttributeChar (c : Char) : '\r' ∉ escapeAttributeChar c := by
  unfold escapeAttributeChar
  split
  case h_5 =>
    unfold escapeChar
    split <;> simp_all [eq_comm]
  all_goals simp

theorem readAttribute?_escapeAttribute (s : String) :
    readAttribute? (escapeAttribute s) = if s.toList.all isChar then some s else none := by
  have hreturn : '\r' ∉ s.toList.flatMap escapeAttributeChar := by
    intro h
    obtain ⟨c, -, hc⟩ := List.mem_flatMap.1 h
    exact return_notMem_escapeAttributeChar c hc
  rw [readAttribute?, escapeAttribute, String.toList_ofList,
    normalizeLineEnds_eq_self_iff.2 hreturn, expand?_flatMap escapes_escapeAttributeChar]
  split
  · exact congrArg some String.ofList_toList
  · rfl

end LinkedRaces.Xml
