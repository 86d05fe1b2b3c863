import LinkedRaces.Proofs.Lexical.Ending

/-!
Texts made of lexemes with blanks between them. Where no blank stands, a lexeme is still read as its
token if the next one begins with a character that does not go on with it.
-/

namespace LinkedRaces

structure Lexeme where
  first : Char
  more : List Char
  token : Token
  reads : Scanner.tokenAfter false false first more = .ok (token, [])

structure Placed extends Lexeme where
  gap : List Char
  blank : ∀ c ∈ gap, Text.isBlank c

namespace Placed

def text (a : Placed) : List Char := a.gap ++ a.first :: a.more

def spaced (a : Placed) : Placed :=
  { a with gap := [' '], blank := List.forall_mem_singleton.2 (by decide) }

end Placed

/-- Ends a literal, or names a function, but is no value that has ended for an angle bracket. -/
def Token.isTagOrWord : Token → Bool
  | .tag _ | .word _ => true
  | _ => false

def Token.isAngle : Token → Bool
  | .mark .less | .mark .atMost => true
  | _ => false

def Lexeme.tight (a : Lexeme) : Placed := { a with gap := [], blank := List.forall_mem_nil _ }

abbrev Layout := List Placed

namespace Layout

def text (L : Layout) : List Char := L.flatMap Placed.text

def tokens (L : Layout) : List Token := L.map fun a => a.token

def spaced (L : Layout) : Layout := L.map Placed.spaced

/-- Behind a tag or a word, the angle bracket of the comparison `b` opens what would be a
reference. -/
def luredHere (a b : Placed) (L : Layout) : Bool :=
  a.token.isTagOrWord && b.token.isAngle && (Scanner.reference? (b.more ++ text L)).isSome

def lured : Layout → Bool
  | a :: b :: L => luredHere a b L || lured (b :: L)
  | _ => false

@[simp] theorem text_cons (a : Placed) (L : Layout) : text (a :: L) = a.text ++ text L := rfl

@[simp] theorem tokens_cons (a : Placed) (L : Layout) : tokens (a :: L) = a.token :: tokens L := rfl

theorem tokens_spaced (L : Layout) : tokens (spaced L) = tokens L := by
  simp [tokens, spaced, Placed.spaced]

end Layout

namespace Scanner

variable {c : Char} {more r : List Char} {tok : Token}

theorem either_eq_nil {second : Char} {long short m : Mark}
    (h : either second long short more = (.mark m, [])) :
    (more = [] ∧ short = m) ∨ (more = [second] ∧ long = m) := by
  cases more with
  | nil => exact .inl ⟨rfl, by simpa [either] using h⟩
  | cons d more =>
    by_cases hd : d = second
    · exact .inr (by simpa [either, hd, and_comm] using h)
    · simp [either, hd] at h

theorem either_fst (second : Char) (long short : Mark) (cs : List Char) :
    ∃ m, (either second long short cs).1 = .mark m := by
  unfold either
  split
  · exact ⟨short, rfl⟩
  · split
    · exact ⟨long, rfl⟩
    · exact ⟨short, rfl⟩

theorem number_fst (sign cs : List Char) :
    ∃ text, (number sign cs).1 = .integer text ∨ (number sign cs).1 = .decimal text ∨
      (number sign cs).1 = .double text := by
  simp only [number]
  split
  · exact ⟨_, .inr (.inr rfl)⟩
  · split
    · exact ⟨_, .inr (.inl rfl)⟩
    · exact ⟨_, .inl rfl⟩

theorem word_fst (cs : List Char) :
    (∃ text, (word cs).1 = .word text) ∨ ∃ label name, (word cs).1 = .prefixed label name := by
  unfold word
  split
  · exact .inr ⟨_, _, rfl⟩
  · exact .inl ⟨_, rfl⟩

def Start.gives : Start → Token → Bool
  | angle, .iri _ | angle, .mark _ => true
  | quote, .string _ => true
  | sigil, .var _ | sigil, .mark _ => true
  | .at, .tag _ => true
  | underscore, .blank _ => true
  | digit, .integer _ | digit, .decimal _ | digit, .double _ => true
  | sign, .integer _ | sign, .decimal _ | sign, .double _ | sign, .mark _ => true
  | dot, .integer _ | dot, .decimal _ | dot, .double _ | dot, .mark _ => true
  | caret, .mark _ | bang, .mark _ | greater, .mark _ | ampersand, .mark _ | bar, .mark _ => true
  | mark _, .mark _ => true
  | word, .word _ | word, .prefixed .. => true
  | _, _ => false

theorem gives_of_tokenAfter {comparing afterValue : Bool}
    (h : tokenAfter comparing afterValue c more = .ok (tok, r)) : (start c).gives tok := by
  have fst_eq {p : Token × List Char} (h : (Except.ok p : Except LexicalFault _) = .ok (tok, r)) :
      p.1 = tok := congrArg Prod.fst (Except.ok.inj h)
  unfold tokenAfter at h
  cases hstart : start c with
  | angle =>
    simp only [hstart] at h
    split at h
    · exact fst_eq h ▸ rfl
    · obtain ⟨m, hm⟩ := either_fst '=' .atMost .less more
      exact (hm.symm.trans (fst_eq h)) ▸ rfl
  | caret | bang | greater | bar =>
    simp only [hstart] at h
    obtain ⟨m, hm⟩ := either_fst _ _ _ more
    exact (hm.symm.trans (fst_eq h)) ▸ rfl
  | quote =>
    simp only [hstart] at h
    obtain ⟨value, rfl, -⟩ := (string_eq_ok_iff (begins_of_start hstart)).1 h
    rfl
  | digit =>
    simp only [hstart] at h
    obtain ⟨text, htext | htext | htext⟩ := number_fst [] (c :: more) <;>
      exact (htext.symm.trans (fst_eq h)) ▸ rfl
  | sign | dot =>
    simp only [hstart] at h
    split at h
    · obtain ⟨text, htext | htext | htext⟩ := number_fst _ _ <;>
        exact (htext.symm.trans (fst_eq h)) ▸ rfl
    · exact fst_eq h ▸ rfl
  | word =>
    simp only [hstart] at h
    obtain ⟨text, htext⟩ | ⟨label, name, htext⟩ := word_fst (c :: more) <;>
      exact (htext.symm.trans (fst_eq h)) ▸ rfl
  | sigil =>
    simp only [hstart] at h
    split at h
    · split at h
      · cases h
      · exact fst_eq h ▸ rfl
    · exact fst_eq h ▸ rfl
  | «at» =>
    simp only [hstart] at h
    split at h
    · cases h
    · exact fst_eq h ▸ rfl
  | underscore | ampersand =>
    simp only [hstart] at h
    split at h
    · exact fst_eq h ▸ rfl
    · cases h
  | mark m =>
    simp only [hstart] at h
    exact fst_eq h ▸ rfl
  | other => simp [hstart] at h

theorem text_of_mark {comparing afterValue : Bool} {m : Mark}
    (h : tokenAfter comparing afterValue c more = .ok (.mark m, [])) :
    c :: more = m.text.toList := by
  have hgives := gives_of_tokenAfter h
  unfold tokenAfter at h
  cases hstart : start c with
  | angle =>
    obtain rfl : c = '<' := begins_of_start hstart
    simp only [hstart] at h
    split at h
    · cases h
    · rcases either_eq_nil (Except.ok.inj h) with ⟨rfl, rfl⟩ | ⟨rfl, rfl⟩ <;> rfl
  | caret | bang | greater | bar =>
    obtain rfl := begins_of_start hstart
    simp only [hstart] at h
    rcases either_eq_nil (Except.ok.inj h) with ⟨rfl, rfl⟩ | ⟨rfl, rfl⟩ <;> rfl
  | ampersand =>
    obtain rfl : c = '&' := begins_of_start hstart
    simp only [hstart] at h
    split at h
    · cases h
      rfl
    · cases h
  | mark n =>
    simp only [hstart] at h
    cases h
    exact (begins_of_start hstart).symm
  | sigil =>
    have hbegins : c = '?' ∨ c = '$' := begins_of_start hstart
    simp only [hstart] at h
    split at h
    · split at h
      · cases h
      next hc =>
        obtain rfl := hbegins.resolve_right hc
        cases h
        rfl
    · cases h
  | sign =>
    have hbegins : c = '+' ∨ c = '-' := begins_of_start hstart
    simp only [hstart] at h
    split at h
    · obtain ⟨text, htext⟩ := number_fst [c] more
      simp_all
    · cases h
      rcases hbegins with rfl | rfl <;> rfl
  | dot =>
    obtain rfl : c = '.' := begins_of_start hstart
    simp only [hstart] at h
    split at h
    · obtain ⟨text, htext⟩ := number_fst [] ('.' :: more)
      simp_all
    · cases h
      rfl
  | quote | «at» | underscore | digit | word | other =>
    -- no mark begins so
    rw [hstart] at hgives
    cases hgives

def separators : List Mark :=
  [.openParen, .closeParen, .comma, .doubleCaret, .and, .or, .bang, .equal, .notEqual, .less,
    .greater, .atMost, .atLeast]

/-- Of the separators, what follows matters to those that a second character makes longer, and to
angle brackets where they do not compare. -/
theorem tokenAfter_separator {m : Mark} (hm : m ∈ separators) (hmark : c :: more = m.text.toList)
    (comparing afterValue : Bool)
    (hlonger : m = .bang ∨ m = .less ∨ m = .greater → r.head? ≠ some '=')
    (hreference : m = .less ∨ m = .atMost → comparing = false → reference? (more ++ r) = none) :
    tokenAfter comparing afterValue c (more ++ r) = .ok (.mark m, r) := by
  have heither (hr : r.head? ≠ some '=') (long short : Mark) :
      either '=' long short r = (.mark short, r) := by
    cases r with
    | nil => rfl
    | cons d r =>
      have hd : d ≠ '=' := by simpa using hr
      simp [either, hd]
  cases m with
  | less =>
    obtain ⟨rfl, rfl⟩ : c = '<' ∧ more = [] := List.cons.inj hmark
    cases comparing with
    | true => exact congrArg Except.ok (heither (hlonger (by simp)) _ _)
    | false =>
      have hnone : reference? r = none := hreference (.inl rfl) rfl
      simp [tokenAfter, show start '<' = .angle by decide, hnone, heither (hlonger (by simp))]
  | atMost =>
    obtain ⟨rfl, rfl⟩ : c = '<' ∧ more = ['='] := List.cons.inj hmark
    cases comparing with
    | true => rfl
    | false =>
      have hnone : reference? ('=' :: r) = none := hreference (.inr rfl) rfl
      simp [tokenAfter, show start '<' = .angle by decide, hnone, either]
  | bang | greater =>
    obtain ⟨rfl, rfl⟩ := List.cons.inj hmark
    exact congrArg Except.ok (heither (hlonger (by simp)) _ _)
  | openParen | closeParen | comma | doubleCaret | and | or | equal | notEqual | atLeast =>
    obtain ⟨rfl, rfl⟩ := List.cons.inj hmark
    rfl
  | _ => exact absurd hm (by decide)

theorem start_of_tag {comparing afterValue : Bool} {tag : String}
    (h : tokenAfter comparing afterValue c more = .ok (.tag tag, r)) : start c = .at := by
  have hgives := gives_of_tokenAfter h
  cases hstart : start c with
  | «at» => rfl
  | _ =>
    rw [hstart] at hgives
    cases hgives

theorem tokenAfter_tag {comparing afterValue : Bool} {tag : String}
    (h : tokenAfter comparing afterValue c more = .ok (.tag tag, r)) (comparing' afterValue' : Bool) :
    tokenAfter comparing' afterValue' c more = .ok (.tag tag, r) := by
  have hstart := start_of_tag h
  simp only [tokenAfter, hstart] at h ⊢
  exact h

theorem tokenAfter_value {comparing afterValue : Bool}
    (h : tokenAfter comparing afterValue c more = .ok (tok, [])) (htok : ∀ m, tok ≠ .mark m)
    (hr : Ends r) : tokenAfter comparing afterValue c (more ++ r) = .ok (tok, r) := by
  refine tokenAfter_append_ends h hr (fun hmore d hd => ?_) fun hangle hcomparing hnone => ?_
  · subst hmore
    unfold tokenAfter at h
    cases hstart : start c <;> rw [hstart] at hd <;> cases hd
    all_goals
      simp only [hstart, reference?, ite_self, either, Except.ok.injEq, Prod.mk.injEq] at h
      exact absurd h.1.symm (htok _)
  · obtain ⟨m, hm⟩ := either_fst '=' .atMost .less more
    simp only [tokenAfter, hangle, hcomparing, hnone] at h
    exact absurd (hm.symm.trans (congrArg Prod.fst (Except.ok.inj h))) fun hne => htok m hne.symm

end Scanner

theorem Tokenizer.kinds_blanks {x : Context} {gap : List Char} (h : ∀ c ∈ gap, Text.isBlank c)
    (cs : List Char) : kinds x (gap ++ cs) = kinds x cs := by
  induction gap with
  | nil => rfl
  | cons c gap ih =>
    obtain ⟨hc, hgap⟩ := List.forall_mem_cons.1 h
    rw [List.cons_append, kinds_blank hc, ih hgap]

namespace Placed

open Scanner (Ends isEnd)

theorem ends_text (a : Placed) (h : isEnd a.first) (r : List Char) : Ends (a.text ++ r) := by
  intro c hc
  cases hgap : a.gap with
  | nil => simp_all [text]
  | cons d gap =>
    have hd : Text.isBlank d := a.blank d (hgap ▸ List.mem_cons_self)
    obtain rfl : d = c := by simpa [text, hgap] using hc
    exact Scanner.isEnd_of_isBlank hd

theorem head?_text_ne (a : Placed) {d : Char} (hd : Text.isBlank d = false) (h : a.first ≠ d)
    (r : List Char) : (a.text ++ r).head? ≠ some d := by
  cases hgap : a.gap with
  | nil => simpa [text, hgap] using h
  | cons b gap =>
    have hb : Text.isBlank b := a.blank b (hgap ▸ List.mem_cons_self)
    have hne : b ≠ d := by
      rintro rfl
      rw [hd] at hb
      cases hb
    simpa [text, hgap] using hne

theorem kinds_text {x : Context} (a : Placed) {tok : Token} {r r' : List Char}
    (h : Scanner.tokenAfter x.compares x.afterValue a.first (a.more ++ r) = .ok (tok, r')) :
    Tokenizer.kinds x (a.text ++ r) = (Tokenizer.kinds (x.next tok) r').map (tok :: ·) := by
  rw [text, List.append_assoc, Tokenizer.kinds_blanks a.blank, List.cons_append,
    Tokenizer.kinds_cons h]

end Placed

end LinkedRaces
