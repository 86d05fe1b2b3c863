import LinkedRaces.Proofs.Lexical.Quotation
import LinkedRaces.Proofs.Lexical.Spelling

/-!
Texts of which more follows. What the scanners take from a text they take also when a character
stands behind it that goes on with no name, number, tag or string: a blank, for one, or a mark. Of
the marks themselves some begin others, and an angle bracket may begin a reference.
-/

namespace LinkedRaces.Scanner

variable {s : List Char}

def isEnd (c : Char) : Bool :=
  !isLocalChar c && !isTagChar c && c != ':' && c != '+' && c != '"' && c != '\''

theorem isLocalChar_of_isEnd {c : Char} (h : isEnd c) : isLocalChar c = false := by
  simp only [isEnd, Bool.and_eq_true, Bool.not_eq_true'] at h
  exact h.1.1.1.1.1

theorem isTagChar_of_isEnd {c : Char} (h : isEnd c) : isTagChar c = false := by
  simp only [isEnd, Bool.and_eq_true, Bool.not_eq_true'] at h
  exact h.1.1.1.1.2

theorem isWordChar_of_isEnd {c : Char} (h : isEnd c) : isWordChar c = false :=
  (Bool.or_eq_false_iff.1 (isLocalChar_of_isEnd h)).1

theorem isNameChar_of_isEnd {c : Char} (h : isEnd c) : isNameChar c = false :=
  (Bool.or_eq_false_iff.1 (Bool.or_eq_false_iff.1 (isWordChar_of_isEnd h)).1).1

theorem isDigit_of_isEnd {c : Char} (h : isEnd c) : c.isDigit = false :=
  (Bool.or_eq_false_iff.1 (Bool.or_eq_false_iff.1 (isTagChar_of_isEnd h)).1).2

theorem isEnd_of_isBlank {c : Char} (h : Text.isBlank c) : isEnd c := by
  have hne : ∀ d, Text.isBlank d = false → c ≠ d := by
    rintro d hd rfl
    rw [h] at hd
    cases hd
  simp [isEnd, isLocalChar_of_isBlank h, isTagChar_of_isBlank h, hne ':' (by decide),
    hne '+' (by decide), hne '"' (by decide), hne '\'' (by decide)]

/-- Nothing follows, or what follows goes on with no token before it. -/
def Ends (s : List Char) : Prop := ∀ c ∈ s.head?, isEnd c

theorem ends_of_separated (h : Separated s) : Ends s := fun c hc => isEnd_of_isBlank (h c hc)

theorem Ends.not {p : Char → Bool} (h : Ends s) (hp : ∀ {c}, isEnd c → p c = false) :
    ∀ c ∈ s.head?, p c = false :=
  fun c hc => hp (h c hc)

theorem Ends.ne {d : Char} (h : Ends s) (hd : isEnd d = false) : s.head? ≠ some d := by
  intro hs
  have hend := h d hs
  rw [hd] at hend
  cases hend

theorem takeWhile_append_of_head? {p : Char → Bool} (hs : ∀ c ∈ s.head?, p c = false)
    (cs : List Char) : (cs ++ s).takeWhile p = cs.takeWhile p := by
  induction cs with
  | nil =>
    cases s with
    | nil => rfl
    | cons c s => simp [hs c rfl]
  | cons c cs ih => by_cases hc : p c <;> simp [hc, ih]

theorem dropWhile_append_of_head? {p : Char → Bool} (hs : ∀ c ∈ s.head?, p c = false)
    (cs : List Char) : (cs ++ s).dropWhile p = cs.dropWhile p ++ s := by
  induction cs with
  | nil =>
    cases s with
    | nil => rfl
    | cons c s => simp [hs c rfl]
  | cons c cs ih => by_cases hc : p c <;> simp [hc, ih]

theorem dottedRun_append_of_head? {p : Char → Bool} (hs : ∀ c ∈ s.head?, p c = false)
    (cs : List Char) : dottedRun p (cs ++ s) = dottedRun p cs := by
  simp only [dottedRun, takeWhile_append_of_head? hs cs]

theorem afterRun_append_of_head? {p : Char → Bool} (hs : ∀ c ∈ s.head?, p c = false)
    (cs : List Char) : afterRun p (cs ++ s) = afterRun p cs ++ s := by
  simp only [afterRun, dottedRun_append_of_head? hs cs,
    List.drop_append_of_le_length (length_dottedRun_le p cs)]

def before (s : List Char) (r : Token × List Char) : Token × List Char := (r.1, r.2 ++ s)

theorem word_append_ends (cs : List Char) (hs : Ends s) :
    word (cs ++ s) = before s (word cs) := by
  have hword := hs.not isWordChar_of_isEnd
  have hlocal := hs.not isLocalChar_of_isEnd
  unfold word
  rw [dottedRun_append_of_head? hword cs, afterRun_append_of_head? hword cs]
  cases afterRun isWordChar cs with
  | nil =>
    have hcolon : s.head? ≠ some ':' := hs.ne (by decide)
    cases s with
    | nil => rfl
    | cons c s => simp_all [before]
  | cons c rest =>
    by_cases hc : c = ':'
    · subst hc
      simp [before, dottedRun_append_of_head? hlocal rest, afterRun_append_of_head? hlocal rest]
    · simp [before, hc]

theorem fraction_of_ends (hs : Ends s) : fraction s = [] := by
  unfold fraction
  split
  next => exact absurd rfl (hs.ne (d := '.') (by decide))
  next => rfl

theorem exponent_of_ends (hs : Ends s) : exponent s = [] := by
  cases s with
  | nil => rfl
  | cons c s =>
    have he : c ≠ 'e' := fun h => hs.ne (d := 'e') (by decide) (by rw [h]; rfl)
    have hE : c ≠ 'E' := fun h => hs.ne (d := 'E') (by decide) (by rw [h]; rfl)
    simp [exponent, he, hE]

theorem beginsWithDigit_of_ends (hs : Ends s) : beginsWithDigit s = false := by
  cases s with
  | nil => rfl
  | cons c s => exact isDigit_of_isEnd (hs c rfl)

theorem fraction_append_ends (cs : List Char) (hs : Ends s) :
    fraction (cs ++ s) = fraction cs := by
  have hdigits (l : List Char) := takeWhile_append_of_head? (hs.not isDigit_of_isEnd) l
  match cs with
  | [] => exact fraction_of_ends hs
  | [c] =>
    cases s with
    | nil => rfl
    | cons d s =>
      have hd : d.isDigit = false := isDigit_of_isEnd (hs d rfl)
      by_cases hc : c = '.' <;> simp [fraction, hc, hd]
  | c :: d :: rest => by_cases hc : c = '.' <;> simp [fraction, hc, hdigits]

theorem exponentDigits_append_ends (cs : List Char) (hs : Ends s) :
    exponentDigits (cs ++ s) = exponentDigits cs := by
  have hdigits (l : List Char) := takeWhile_append_of_head? (hs.not isDigit_of_isEnd) l
  cases cs with
  | nil =>
    cases s with
    | nil => rfl
    | cons c s =>
      have hplus : c ≠ '+' := fun h => hs.ne (d := '+') (by decide) (by rw [h]; rfl)
      have hminus : c ≠ '-' := fun h => hs.ne (d := '-') (by decide) (by rw [h]; rfl)
      simp [exponentDigits, isDigit_of_isEnd (hs c rfl), hplus, hminus]
  | cons d rest => simp only [List.cons_append, exponentDigits, hdigits]

theorem exponent_append_ends (cs : List Char) (hs : Ends s) :
    exponent (cs ++ s) = exponent cs := by
  cases cs with
  | nil => exact exponent_of_ends hs
  | cons e rest => simp only [List.cons_append, exponent, exponentDigits_append_ends rest hs]

theorem length_fraction_le (cs : List Char) : (fraction cs).length ≤ cs.length := by
  unfold fraction
  split
  · next d rest =>
    have := (List.takeWhile_prefix Char.isDigit (l := rest)).length_le
    split
    · simp
      omega
    · simp
  · simp

theorem length_exponentDigits_le (cs : List Char) : (exponentDigits cs).length ≤ cs.length := by
  cases cs with
  | nil => simp [exponentDigits]
  | cons d rest =>
    have := (List.takeWhile_prefix Char.isDigit (l := rest)).length_le
    simp only [exponentDigits]
    split
    · simpa using this
    · split
      · split
        · simp
        · simpa using this
      · simp

theorem length_exponent_le (cs : List Char) : (exponent cs).length ≤ cs.length := by
  cases cs with
  | nil => simp [exponent]
  | cons e rest =>
    have := length_exponentDigits_le rest
    simp only [exponent]
    split
    · split
      · simp
      · simpa using this
    · simp

theorem number_append_ends (sign cs : List Char) (hs : Ends s) :
    number sign (cs ++ s) = before s (number sign cs) := by
  have hdigit := hs.not isDigit_of_isEnd
  simp only [number, before, takeWhile_append_of_head? hdigit cs, dropWhile_append_of_head? hdigit cs,
    fraction_append_ends _ hs, List.drop_append_of_le_length (length_fraction_le _),
    exponent_append_ends _ hs, List.drop_append_of_le_length (length_exponent_le _)]

theorem beginsWithDigit_append_ends (cs : List Char) (hs : Ends s) :
    beginsWithDigit (cs ++ s) = beginsWithDigit cs := by
  cases cs with
  | nil => exact beginsWithDigit_of_ends hs
  | cons c cs => rfl

theorem reference?_keeps {cs body rest : List Char} (h : reference? cs = some (body, rest)) :
    ∃ lexeme, cs = lexeme ++ rest ∧ ∀ rest', reference? (lexeme ++ rest') = some (body, rest') := by
  fun_induction reference? cs generalizing body with
  | case1 => cases h
  | case2 cs =>
    cases h
    exact ⟨['>'], rfl, fun rest' => by simp [reference?]⟩
  | case3 => cases h
  | case4 c cs hclose hend ih =>
    obtain ⟨⟨b, r⟩, hr, heq⟩ := Option.map_eq_some_iff.1 h
    obtain ⟨rfl, rfl⟩ := Prod.mk.inj heq
    obtain ⟨lexeme, rfl, hread⟩ := ih hr
    refine ⟨c :: lexeme, rfl, fun rest' => ?_⟩
    rw [List.cons_append, reference?, if_neg hclose, if_neg hend, hread]
    rfl

theorem reference?_append_of_some {cs body rest : List Char}
    (h : reference? cs = some (body, rest)) (s : List Char) :
    reference? (cs ++ s) = some (body, rest ++ s) := by
  obtain ⟨lexeme, rfl, hread⟩ := reference?_keeps h
  rw [List.append_assoc, hread]

theorem reference?_append_separated (cs : List Char) (hs : Separated s) :
    reference? (cs ++ s) = (reference? cs).map fun r => (r.1, r.2 ++ s) := by
  induction cs with
  | nil => simpa [reference?] using reference?_of_separated hs
  | cons c cs ih =>
    by_cases hc : c = '>'
    · simp [reference?, hc]
    · by_cases hend : endsReference c
      · simp [reference?, hc, hend]
      · simp [reference?, hc, hend, ih, Function.comp_def]

theorem either_append {second : Char} (long short : Mark) (cs : List Char)
    (hs : cs = [] → s.head? ≠ some second) :
    either second long short (cs ++ s) = before s (either second long short cs) := by
  cases cs with
  | nil =>
    cases s with
    | nil => rfl
    | cons c s =>
      have hc : c ≠ second := by simpa using hs rfl
      simp [either, before, hc]
  | cons c cs => by_cases hc : c = second <;> simp [either, before, hc]

theorem string_append {quote : Char} (hq : IsQuote quote) {cs rest : List Char} {t : Token}
    (h : string quote cs = .ok (t, rest)) (hs : s.head? ≠ some quote) :
    string quote (cs ++ s) = .ok (t, rest ++ s) := by
  obtain ⟨value, rfl, lexeme, htext, hquoted, hempty⟩ := (string_eq_ok_iff hq).1 h
  refine (string_eq_ok_iff hq).2 ⟨value, rfl, lexeme, ?_, hquoted, fun hlexeme => ?_⟩
  · rw [← List.cons_append, htext, List.append_assoc]
  · cases rest with
    | nil => exact hs
    | cons c rest => exact hempty hlexeme

def Start.second? : Start → Option Char
  | angle | bang | greater => some '='
  | caret => some '^'
  | bar => some '|'
  | _ => none

theorem ok_append {r r' : Token × List Char} (hr : r' = before s r) {t : Token} {rest : List Char}
    (h : (Except.ok r : Except LexicalFault (Token × List Char)) = .ok (t, rest)) :
    (Except.ok r' : Except LexicalFault (Token × List Char)) = .ok (t, rest ++ s) := by
  obtain rfl := Except.ok.inj h
  exact congrArg Except.ok hr

/-- A token is taken also if more follows that does not go on with it, unless the first bracket of a
comparison becomes the bracket of a reference. -/
theorem tokenAfter_append_ends {comparing afterValue : Bool} {c : Char} {rest rest' : List Char}
    {t : Token} (h : tokenAfter comparing afterValue c rest = .ok (t, rest')) (hs : Ends s)
    (hsecond : rest = [] → ∀ d ∈ (start c).second?, s.head? ≠ some d)
    (hreference : start c = .angle → comparing = false → reference? rest = none →
      reference? (rest ++ s) = none) :
    tokenAfter comparing afterValue c (rest ++ s) = .ok (t, rest' ++ s) := by
  have hname := takeWhile_append_of_head? (hs.not isNameChar_of_isEnd) rest
  have hname' := dropWhile_append_of_head? (hs.not isNameChar_of_isEnd) rest
  have htag := takeWhile_append_of_head? (hs.not isTagChar_of_isEnd) rest
  have htag' := dropWhile_append_of_head? (hs.not isTagChar_of_isEnd) rest
  have hnumber (sign cs) := number_append_ends (s := s) sign cs hs
  have hdigit := beginsWithDigit_append_ends rest hs
  unfold tokenAfter at h ⊢
  cases hstart : start c with
  | angle =>
    rw [hstart] at hsecond
    simp only [hstart] at h ⊢
    cases hr : (if comparing then none else reference? rest) with
    | none =>
      have hnone : (if comparing then none else reference? (rest ++ s)) = none := by
        cases comparing with
        | true => rfl
        | false => exact hreference hstart rfl hr
      rw [hr] at h
      rw [hnone]
      exact ok_append (either_append _ _ rest fun hrest => hsecond hrest _ rfl) h
    | some r =>
      cases comparing with
      | true => cases hr
      | false =>
        simp only [Bool.false_eq_true, if_false] at hr h ⊢
        rw [hr] at h
        rw [reference?_append_of_some hr]
        exact ok_append rfl h
  | quote =>
    simp only [hstart] at h ⊢
    have hq : IsQuote c := begins_of_start hstart
    exact string_append hq h (hs.ne (by rcases hq with rfl | rfl <;> decide))
  | sigil =>
    simp only [hstart, hname, hname'] at h ⊢
    split at h
    · split at h <;> simp_all
    · simp_all
  | «at» =>
    simp only [hstart, htag, htag'] at h ⊢
    split at h <;> simp_all
  | underscore =>
    simp only [hstart] at h ⊢
    split at h
    · next r =>
      simp only [Except.ok.injEq, Prod.mk.injEq] at h
      obtain ⟨rfl, rfl⟩ := h
      simp [takeWhile_append_of_head? (hs.not isNameChar_of_isEnd) r,
        dropWhile_append_of_head? (hs.not isNameChar_of_isEnd) r]
    · cases h
  | digit =>
    simp only [hstart] at h ⊢
    exact ok_append (hnumber [] (c :: rest)) h
  | sign =>
    simp only [hstart, hdigit] at h ⊢
    split at h
    next hsigned =>
      rw [if_pos hsigned]
      exact ok_append (hnumber [c] rest) h
    next hmark =>
      rw [if_neg hmark]
      exact ok_append rfl h
  | dot =>
    simp only [hstart, hdigit] at h ⊢
    split at h
    next hdigits =>
      rw [if_pos hdigits]
      exact ok_append (hnumber [] (c :: rest)) h
    next hmark =>
      rw [if_neg hmark]
      exact ok_append rfl h
  | caret | bang | greater | bar =>
    rw [hstart] at hsecond
    simp only [hstart] at h ⊢
    exact ok_append (either_append _ _ rest fun hrest => hsecond hrest _ rfl) h
  | ampersand =>
    simp only [hstart] at h ⊢
    split at h
    · simp_all
    · cases h
  | mark m =>
    simp only [hstart] at h ⊢
    exact ok_append rfl h
  | word =>
    simp only [hstart] at h ⊢
    exact ok_append (word_append_ends (c :: rest) hs) h
  | other => simp [hstart] at h

end LinkedRaces.Scanner
