import LinkedRaces.Lexical.Scanner
import LinkedRaces.Proofs.Text.Blank
import LinkedRaces.Rdf.Literal

/-!
What the scanners take from written text: names, numbers, references and escaped strings, each up
to the character that follows it.
-/

namespace LinkedRaces

def Separated (rest : List Char) : Prop := ∀ c ∈ rest.head?, Text.isBlank c

theorem separated_nil : Separated [] := by simp [Separated]

theorem separated_cons {c : Char} (h : Text.isBlank c) (rest : List Char) :
    Separated (c :: rest) := by
  simpa [Separated] using h

namespace Scanner

theorem takeWhile_append_stop {p : Char → Bool} {body rest : List Char} (hb : ∀ c ∈ body, p c)
    (hr : ∀ c ∈ rest.head?, p c = false) : (body ++ rest).takeWhile p = body := by
  rw [List.takeWhile_append_of_pos hb]
  cases rest with
  | nil => simp
  | cons c rest => simp [hr c rfl]

theorem dropWhile_append_stop {p : Char → Bool} {body rest : List Char} (hb : ∀ c ∈ body, p c)
    (hr : ∀ c ∈ rest.head?, p c = false) : (body ++ rest).dropWhile p = rest := by
  rw [List.dropWhile_append_of_pos hb]
  cases rest with
  | nil => rfl
  | cons c rest => simp [hr c rfl]

theorem head?_dropWhile (p : Char → Bool) (cs : List Char) :
    ∀ c ∈ (cs.dropWhile p).head?, p c = false := by
  intro c hc
  have := List.head?_dropWhile_not p cs
  rw [Option.mem_def.1 hc] at this
  exact this

theorem dottedRun_append {p : Char → Bool} {body rest : List Char} (hb : ∀ c ∈ body, p c)
    (hdot : body.getLast? ≠ some '.') (hr : ∀ c ∈ rest.head?, p c = false) :
    dottedRun p (body ++ rest) = body := by
  rw [dottedRun, takeWhile_append_stop hb hr]
  have : body.reverse.dropWhile (· == '.') = body.reverse := by
    rw [← List.head?_reverse] at hdot
    cases h : body.reverse with
    | nil => rfl
    | cons c cs =>
      have hc : c ≠ '.' := by simpa [h] using hdot
      simp [hc]
  rw [this, List.reverse_reverse]

theorem afterRun_append {p : Char → Bool} {body rest : List Char} (hb : ∀ c ∈ body, p c)
    (hdot : body.getLast? ≠ some '.') (hr : ∀ c ∈ rest.head?, p c = false) :
    afterRun p (body ++ rest) = rest := by
  rw [afterRun, dottedRun_append hb hdot hr, List.drop_left]

theorem isNameChar_of_isBlank {c : Char} (h : Text.isBlank c) : isNameChar c = false := by
  have hc : c ≠ '_' := by rintro rfl; revert h; decide
  simp [isNameChar, Text.isAlphanumeric_of_isBlank h, hc]

theorem isWordChar_of_isBlank {c : Char} (h : Text.isBlank c) : isWordChar c = false := by
  have hdash : c ≠ '-' := by rintro rfl; revert h; decide
  have hdot : c ≠ '.' := by rintro rfl; revert h; decide
  simp [isWordChar, isNameChar_of_isBlank h, hdash, hdot]

theorem isLocalChar_of_isBlank {c : Char} (h : Text.isBlank c) : isLocalChar c = false := by
  have hc : c ≠ '%' := by rintro rfl; revert h; decide
  simp [isLocalChar, isWordChar_of_isBlank h, hc]

theorem isDigit_of_isBlank {c : Char} (h : Text.isBlank c) : c.isDigit = false :=
  Text.forall_inRanges (P := fun c => c.isDigit = false) (by decide) h

theorem isTagChar_of_isBlank {c : Char} (h : Text.isBlank c) : isTagChar c = false :=
  Text.forall_inRanges (P := fun c => isTagChar c = false) (by decide) h

theorem word_append {body rest : List Char} (hb : ∀ c ∈ body, isWordChar c)
    (hdot : body.getLast? ≠ some '.') (hr : ∀ c ∈ rest.head?, isWordChar c = false ∧ c ≠ ':') :
    word (body ++ rest) = (.word (String.ofList body), rest) := by
  have hstop : ∀ c ∈ rest.head?, isWordChar c = false := fun c hc => (hr c hc).1
  unfold word
  rw [dottedRun_append hb hdot hstop, afterRun_append hb hdot hstop]
  split
  next rest' => exact absurd rfl (hr ':' (by simp)).2
  next => rfl

theorem word_prefixed {label name rest : List Char} (hl : ∀ c ∈ label, isWordChar c)
    (hldot : label.getLast? ≠ some '.') (hn : ∀ c ∈ name, isLocalChar c)
    (hndot : name.getLast? ≠ some '.') (hr : ∀ c ∈ rest.head?, isLocalChar c = false) :
    word (label ++ ':' :: (name ++ rest)) =
      (.prefixed (String.ofList label) (String.ofList name), rest) := by
  have hcolon : ∀ c ∈ (':' :: (name ++ rest)).head?, isWordChar c = false := by
    simp only [List.head?_cons, Option.mem_some_iff]
    rintro c rfl
    decide
  unfold word
  rw [dottedRun_append hl hldot hcolon, afterRun_append hl hldot hcolon]
  simp only [dottedRun_append hn hndot hr, afterRun_append hn hndot hr]

theorem fraction_of_separated {rest : List Char} (h : Separated rest) : fraction rest = [] := by
  unfold fraction
  split
  next => exact absurd (h '.' (by simp)) (by decide)
  next => rfl

theorem exponent_of_separated {rest : List Char} (h : Separated rest) : exponent rest = [] := by
  cases rest with
  | nil => rfl
  | cons c rest =>
    have hc := h c (by simp)
    have he : c ≠ 'e' := by rintro rfl; revert hc; decide
    have hE : c ≠ 'E' := by rintro rfl; revert hc; decide
    simp [exponent, he, hE]

theorem number_digits {digits rest : List Char} (hd : ∀ c ∈ digits, c.isDigit)
    (hr : Separated rest) :
    number [] (digits ++ rest) = (.integer (String.ofList digits), rest) := by
  have hstop : ∀ c ∈ rest.head?, c.isDigit = false := fun c hc => isDigit_of_isBlank (hr c hc)
  simp [number, takeWhile_append_stop hd hstop, dropWhile_append_stop hd hstop,
    fraction_of_separated hr, exponent_of_separated hr]

def isReferenceChar (c : Char) : Bool := c != '>' && !endsReference c

theorem reference?_append {body : List Char} (hb : ∀ c ∈ body, isReferenceChar c)
    (rest : List Char) : reference? (body ++ '>' :: rest) = some (body, rest) := by
  induction body with
  | nil => simp [reference?]
  | cons c body ih =>
    have hc := hb c List.mem_cons_self
    simp only [isReferenceChar, Bool.and_eq_true, bne_iff_ne, Bool.not_eq_true'] at hc
    simp [reference?, hc.1, hc.2, ih fun d hd => hb d (List.mem_cons_of_mem c hd)]

theorem shortString_escapeChar (c : Char) (cs : List Char) :
    shortString '"' (Literal.escapeChar c ++ cs) =
      (shortString '"' cs).map fun p => (c :: p.1, p.2) := by
  unfold Literal.escapeChar
  split
  all_goals
    rw [List.cons_append, shortString]
    cases hrest : shortString '"' cs <;>
      simp_all [escape, escaped?, bind, Except.bind, Except.map]

theorem shortString_escape (body rest : List Char) :
    shortString '"' (body.flatMap Literal.escapeChar ++ '"' :: rest) = .ok (body, rest) := by
  induction body with
  | nil => rw [List.flatMap_nil, List.nil_append, shortString, if_pos rfl]
  | cons c body ih => rw [List.flatMap_cons, List.append_assoc, shortString_escapeChar, ih]; rfl

theorem head?_escapeChar (c : Char) : (Literal.escapeChar c).head? ≠ some '"' := by
  unfold Literal.escapeChar
  split <;> simp_all

theorem stringBody_escape (body : List Char) {rest : List Char} (hr : rest.head? ≠ some '"') :
    stringBody '"' (body.flatMap Literal.escapeChar ++ '"' :: rest) = .ok (body, rest) := by
  have hshort : (body.flatMap Literal.escapeChar ++ '"' :: rest).take 2 ≠ ['"', '"'] := by
    intro h
    cases body with
    | nil => cases rest <;> simp_all
    | cons c body =>
      have hc := head?_escapeChar c
      cases he : Literal.escapeChar c with
      | nil => unfold Literal.escapeChar at he; split at he <;> simp at he
      | cons d ds => simp_all
  rw [stringBody, if_neg hshort, shortString_escape]

end Scanner

end LinkedRaces
