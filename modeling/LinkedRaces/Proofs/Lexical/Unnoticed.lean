import LinkedRaces.Proofs.Lexical.Ending
import LinkedRaces.Proofs.Lexical.Numerals
import Mathlib.Data.List.TakeWhile

/-!
What stands behind a token. The scanners look past the end of the token that they take, and some
look far: a bracket begins a reference if the text behind it closes one. A text may stand in the
place of another without a token before it being read in another way, if it agrees with the other
one in all that is looked at.
-/

namespace LinkedRaces.Scanner

theorem exists_dots (p : Char → Bool) (cs : List Char) :
    ∃ dots, cs.takeWhile p = dottedRun p cs ++ dots ∧ (∀ c ∈ dots, c = '.') ∧
      afterRun p cs = dots ++ cs.dropWhile p ∧ (dottedRun p cs).getLast? ≠ some '.' := by
  obtain ⟨dots, hdots⟩ : ∃ dots, dots = ((cs.takeWhile p).reverse.takeWhile (· == '.')).reverse :=
    ⟨_, rfl⟩
  have htake : cs.takeWhile p = dottedRun p cs ++ dots := by
    rw [dottedRun, hdots, ← List.reverse_append, List.takeWhile_append_dropWhile,
      List.reverse_reverse]
  have hcs : cs = dottedRun p cs ++ (dots ++ cs.dropWhile p) := by
    rw [← List.append_assoc, ← htake, List.takeWhile_append_dropWhile]
  refine ⟨dots, htake, fun c hc => ?_, ?_, ?_⟩
  · rw [hdots, List.mem_reverse] at hc
    simpa using List.mem_takeWhile_imp hc
  · exact (congrArg (List.drop (dottedRun p cs).length) hcs).trans List.drop_left
  · rw [dottedRun, List.getLast?_reverse]
    intro hdot
    simpa using head?_dropWhile _ _ '.' hdot

theorem dottedRun_append_dots {p : Char → Bool} {run dots rest : List Char} (hrun : ∀ c ∈ run, p c)
    (hlast : run.getLast? ≠ some '.') (hp : ∀ c ∈ dots, p c) (hdots : ∀ c ∈ dots, c = '.')
    (hrest : ∀ c ∈ rest.head?, p c = false) : dottedRun p (run ++ (dots ++ rest)) = run := by
  have htake : (run ++ (dots ++ rest)).takeWhile p = run ++ dots := by
    rw [← List.append_assoc]
    exact takeWhile_append_stop (List.forall_mem_append.2 ⟨hrun, hp⟩) hrest
  have hdrop : (dots.reverse ++ run.reverse).dropWhile (· == '.') = run.reverse :=
    dropWhile_append_stop (by simpa using hdots) fun c hc => by
      rw [List.head?_reverse] at hc
      simpa using fun h : c = '.' => hlast (h ▸ hc)
  rw [dottedRun, htake, List.reverse_append, hdrop, List.reverse_reverse]

theorem dottedRun_append_afterRun (p : Char → Bool) (cs : List Char) :
    dottedRun p cs ++ afterRun p cs = cs := by
  obtain ⟨dots, htake, -, hafter, -⟩ := exists_dots p cs
  rw [hafter, ← List.append_assoc, ← htake, List.takeWhile_append_dropWhile]

theorem dottedRun_afterRun (p : Char → Bool) (cs : List Char) :
    dottedRun p (afterRun p cs) = [] := by
  obtain ⟨dots, htake, hdots, hafter, -⟩ := exists_dots p cs
  have hp : ∀ c ∈ dots, p c := fun c hc =>
    List.mem_takeWhile_imp (htake ▸ List.mem_append_right (dottedRun p cs) hc)
  rw [hafter]
  have hrun : ∀ c ∈ [], p c := by simp
  exact dottedRun_append_dots hrun (by simp) hp hdots (head?_dropWhile p cs)

theorem dottedRun_append_of_nil {p : Char → Bool} {run rest : List Char} (hrun : ∀ c ∈ run, p c)
    (hlast : run.getLast? ≠ some '.') (hrest : dottedRun p rest = []) :
    dottedRun p (run ++ rest) = run := by
  obtain ⟨dots, htake, hdots, hafter, -⟩ := exists_dots p rest
  rw [hrest, List.nil_append] at htake
  have hsplit : rest = dots ++ rest.dropWhile p := by
    rw [← htake, List.takeWhile_append_dropWhile]
  rw [hsplit]
  exact dottedRun_append_dots hrun hlast (htake ▸ fun c hc => List.mem_takeWhile_imp hc) hdots
    (head?_dropWhile p rest)

theorem dottedRun_eq_nil_iff {p : Char → Bool} {cs : List Char} :
    dottedRun p cs = [] ↔ ∀ c ∈ cs.takeWhile p, c = '.' := by
  simp [dottedRun]

/-- What is looked at behind a token is in `rest'` as it is in `rest`. -/
structure Unnoticed (rest rest' : List Char) : Prop where
  run : ∀ p ∈ [isNameChar, isTagChar, Char.isDigit],
    (∀ c ∈ rest.head?, p c = false) → ∀ c ∈ rest'.head?, p c = false
  dotted : ∀ p ∈ [isWordChar, isLocalChar], dottedRun p rest = [] → dottedRun p rest' = []
  mark : ∀ c ∈ [':', '=', '^', '|', '"', '\''], rest.head? ≠ some c → rest'.head? ≠ some c
  fraction : Scanner.fraction rest = [] → Scanner.fraction rest' = []
  exponent : Scanner.exponent rest = [] → Scanner.exponent rest' = []
  reference : ∀ lexeme, reference? (lexeme ++ rest) = none → reference? (lexeme ++ rest') = none

namespace Unnoticed

variable {cs rest rest' : List Char}

theorem takeWhile {p : Char → Bool} (hp : p ∈ [isNameChar, isTagChar, Char.isDigit])
    (h : Unnoticed (cs.dropWhile p) rest') :
    (cs.takeWhile p ++ rest').takeWhile p = cs.takeWhile p :=
  takeWhile_append_stop (fun _ hc => List.mem_takeWhile_imp hc)
    (h.run p hp (head?_dropWhile p cs))

theorem dropWhile {p : Char → Bool} (hp : p ∈ [isNameChar, isTagChar, Char.isDigit])
    (h : Unnoticed (cs.dropWhile p) rest') : (cs.takeWhile p ++ rest').dropWhile p = rest' :=
  dropWhile_append_stop (fun _ hc => List.mem_takeWhile_imp hc)
    (h.run p hp (head?_dropWhile p cs))

theorem beginsWithDigit (h : Unnoticed rest rest') (hrest : Scanner.beginsWithDigit rest = false) :
    Scanner.beginsWithDigit rest' = false := by
  have hdigit := h.run Char.isDigit (by simp)
  cases rest' with
  | nil => rfl
  | cons c rest' =>
    refine hdigit (fun d hd => ?_) c rfl
    cases rest with
    | nil => cases hd
    | cons => cases hd; exact hrest

theorem endsBefore {n : Numeral} (h : Unnoticed rest rest') (hn : n.EndsBefore rest) :
    n.EndsBefore rest' where
  digits := h.run Char.isDigit (by simp) hn.digits
  exponent he := h.exponent (hn.exponent he)
  fraction he hf := h.fraction (hn.fraction he hf)

end Unnoticed

theorem dottedRun_append_stays {p : Char → Bool} {cs rest : List Char}
    (hrest : dottedRun p rest = []) : dottedRun p (dottedRun p cs ++ rest) = dottedRun p cs := by
  obtain ⟨dots, htake, -, -, hlast⟩ := exists_dots p cs
  refine dottedRun_append_of_nil (fun c hc => ?_) hlast hrest
  exact List.mem_takeWhile_imp (htake ▸ List.mem_append_left dots hc)

theorem afterRun_append_stays {p : Char → Bool} {cs rest : List Char}
    (hrest : dottedRun p rest = []) : afterRun p (dottedRun p cs ++ rest) = rest := by
  rw [afterRun, dottedRun_append_stays hrest, List.drop_left]

/-- The scan takes a token from the front, whatever stands behind it in the place of what is left
there, if that goes unnoticed. -/
def Keeps (scan : List Char → Token × List Char) (cs : List Char) (t : Token) (rest : List Char) :
    Prop :=
  ∃ lexeme, cs = lexeme ++ rest ∧ ∀ rest', Unnoticed rest rest' → scan (lexeme ++ rest') = (t, rest')

theorem Keeps.cons {scan : List Char → Token × List Char} {c : Char} {cs rest : List Char}
    {t : Token} (h : Keeps scan (c :: cs) t rest) (hlt : rest.length ≤ cs.length) :
    ∃ lexeme, cs = lexeme ++ rest ∧
      ∀ rest', Unnoticed rest rest' → scan (c :: (lexeme ++ rest')) = (t, rest') := by
  obtain ⟨_ | ⟨d, lexeme⟩, hcs, hscan⟩ := h
  · have := congrArg List.length hcs
    simp only [List.nil_append, List.length_cons] at this
    omega
  · obtain ⟨rfl, rfl⟩ := List.cons.inj hcs
    exact ⟨lexeme, rfl, hscan⟩

theorem keeps_word {cs rest : List Char} {t : Token} (h : word cs = (t, rest)) :
    Keeps word cs t rest := by
  unfold word at h
  split at h
  next after hafter =>
    obtain ⟨rfl, rfl⟩ := Prod.mk.inj h
    refine ⟨dottedRun isWordChar cs ++ ':' :: dottedRun isLocalChar after, ?_,
      fun rest' hrest => ?_⟩
    · rw [List.append_assoc, List.cons_append, dottedRun_append_afterRun, ← hafter,
        dottedRun_append_afterRun]
    · have hcolon : dottedRun isWordChar (':' :: (dottedRun isLocalChar after ++ rest')) = [] := by
        simp [dottedRun_eq_nil_iff, show isWordChar ':' = false by decide]
      have hlocal := hrest.dotted isLocalChar (by simp) (dottedRun_afterRun ..)
      unfold word
      rw [List.append_assoc, List.cons_append, dottedRun_append_stays hcolon,
        afterRun_append_stays hcolon]
      simp only [dottedRun_append_stays hlocal, afterRun_append_stays hlocal]
  next hcolon =>
    obtain ⟨rfl, rfl⟩ := Prod.mk.inj h
    refine ⟨dottedRun isWordChar cs, (dottedRun_append_afterRun ..).symm, fun rest' hrest => ?_⟩
    have hword := hrest.dotted isWordChar (by simp) (dottedRun_afterRun ..)
    have hnext : rest'.head? ≠ some ':' := by
      refine hrest.mark ':' (by simp) fun hhead => ?_
      obtain ⟨after, hafter⟩ := List.head?_eq_some_iff.1 hhead
      exact hcolon after hafter
    unfold word
    rw [dottedRun_append_stays hword, afterRun_append_stays hword]
    split
    next => exact absurd rfl hnext
    next => rfl

theorem keeps_number {sign cs rest : List Char} {t : Token} (hsign : IsSign sign)
    (hbegins : cs.takeWhile Char.isDigit ≠ [] ∨ sign = [] ∧ fraction cs ≠ [])
    (h : number sign cs = (t, rest)) : Keeps (number sign) cs t rest := by
  obtain ⟨n, rfl, rfl, rfl, hends⟩ := exists_numeral hsign hbegins h
  exact ⟨n.body, rfl, fun rest' hrest => number_body n (hrest.endsBefore hends)⟩

theorem head?_of_number {sign cs rest : List Char} {t : Token} (hsign : IsSign sign)
    (hbegins : cs.takeWhile Char.isDigit ≠ [] ∨ sign = [] ∧ fraction cs ≠ [])
    (h : number sign cs = (t, rest)) : ∀ c ∈ rest.head?, c.isDigit = false := by
  obtain ⟨n, -, -, -, hends⟩ := exists_numeral hsign hbegins h
  exact hends.digits

theorem beginsWithDigit_append {lexeme rest : List Char}
    (hrest : ∀ c ∈ rest.head?, c.isDigit = false) (h : beginsWithDigit (lexeme ++ rest))
    (rest' : List Char) : beginsWithDigit (lexeme ++ rest') := by
  cases lexeme with
  | nil =>
    cases rest with
    | nil => cases h
    | cons c rest => exact absurd h (by simp [beginsWithDigit, hrest c rfl])
  | cons => exact h

theorem keeps_either {second : Char} {long short : Mark} (hsecond : second ∈ ['=', '^', '|'])
    {cs rest : List Char} {t : Token} (h : either second long short cs = (t, rest)) :
    Keeps (either second long short) cs t rest := by
  have hshort (hcs : cs.head? ≠ some second) (h : (.mark short, cs) = (t, rest)) :
      Keeps (either second long short) cs t rest := by
    obtain ⟨rfl, rfl⟩ := Prod.mk.inj h
    refine ⟨[], rfl, fun rest' hrest => ?_⟩
    have hnext := hrest.mark second (by revert hsecond; simp; tauto) hcs
    cases rest' with
    | nil => rfl
    | cons d rest' => rw [List.nil_append, either, if_neg (by simpa using hnext)]
  cases cs with
  | nil => exact hshort (by simp) h
  | cons c cs =>
    by_cases hc : c = second
    · rw [either, if_pos hc] at h
      obtain ⟨rfl, rfl⟩ := Prod.mk.inj h
      exact ⟨[c], rfl, fun rest' _ => by rw [List.singleton_append, either, if_pos hc]⟩
    · rw [either, if_neg hc] at h
      exact hshort (by simpa using hc) h

theorem string_keeps {quote : Char} (hq : IsQuote quote) {cs rest : List Char} {t : Token}
    (h : string quote cs = .ok (t, rest)) :
    ∃ lexeme, cs = lexeme ++ rest ∧
      ∀ rest', Unnoticed rest rest' → string quote (lexeme ++ rest') = .ok (t, rest') := by
  obtain ⟨value, rfl, lexeme, htext, hquoted, hempty⟩ := (string_eq_ok_iff hq).1 h
  obtain ⟨more, rfl⟩ : ∃ more, lexeme = quote :: more := by cases hquoted <;> exact ⟨_, rfl⟩
  refine ⟨more, (List.cons.inj htext).2, fun rest' hrest => ?_⟩
  have hmark := hrest.mark quote (by rcases hq with rfl | rfl <;> simp)
  exact (string_eq_ok_iff hq).2
    ⟨value, rfl, quote :: more, rfl, hquoted, fun hlexeme => hmark (hempty hlexeme)⟩

/-- A token is taken whatever stands in the place of what is left behind it, if that goes
unnoticed. -/
theorem tokenAfter_unnoticed {comparing afterValue : Bool} {c : Char} {cs rest : List Char}
    {t : Token} (h : tokenAfter comparing afterValue c cs = .ok (t, rest)) :
    ∃ lexeme, cs = lexeme ++ rest ∧ ∀ rest', Unnoticed rest rest' →
      tokenAfter comparing afterValue c (lexeme ++ rest') = .ok (t, rest') := by
  have hlength := length_tokenAfter_le h
  unfold tokenAfter at h ⊢
  -- Words and numbers are scanned from `c` on, the others behind it.
  cases hstart : start c with
  | angle =>
    simp only [hstart] at h ⊢
    split at h
    next body after href =>
      obtain ⟨rfl, rfl⟩ := Prod.mk.inj (Except.ok.inj h)
      cases comparing with
      | true => cases href
      | false =>
        obtain ⟨lexeme, rfl, hread⟩ := reference?_keeps href
        exact ⟨lexeme, rfl, fun rest' _ => by simp only [Bool.false_eq_true, if_false, hread]⟩
    next hnone =>
      obtain ⟨lexeme, rfl, hread⟩ := keeps_either (by simp) (Except.ok.inj h)
      refine ⟨lexeme, rfl, fun rest' hrest => ?_⟩
      have hnone' : (if comparing then none else reference? (lexeme ++ rest')) = none := by
        cases comparing with
        | true => rfl
        | false => exact hrest.reference lexeme hnone
      rw [hnone', ← hread rest' hrest]
  | quote =>
    simp only [hstart] at h ⊢
    exact string_keeps (begins_of_start hstart) h
  | sigil =>
    simp only [hstart] at h ⊢
    have hcs : cs.takeWhile isNameChar ++ cs.dropWhile isNameChar = cs :=
      List.takeWhile_append_dropWhile
    split at h
    next hnone =>
      split at h
      next => cases h
      next hsign =>
        obtain ⟨rfl, rfl⟩ := Prod.mk.inj (Except.ok.inj h)
        refine ⟨[], rfl, fun rest' hrest => ?_⟩
        rw [hnone, List.nil_append] at hcs
        have htake := Unnoticed.takeWhile (p := isNameChar) (by simp) (hcs.symm ▸ hrest)
        rw [hnone, List.nil_append] at htake
        simp only [List.nil_append, htake, if_neg hsign]
    next hsome =>
      obtain ⟨rfl, rfl⟩ := Prod.mk.inj (Except.ok.inj h)
      refine ⟨_, hcs.symm, fun rest' hrest => ?_⟩
      rw [hrest.takeWhile (by simp), hrest.dropWhile (by simp)]
      cases hname : cs.takeWhile isNameChar with
      | nil => exact absurd hname hsome
      | cons => rfl
  | «at» =>
    simp only [hstart] at h ⊢
    split at h
    next => cases h
    next hsome =>
      obtain ⟨rfl, rfl⟩ := Prod.mk.inj (Except.ok.inj h)
      refine ⟨_, List.takeWhile_append_dropWhile.symm, fun rest' hrest => ?_⟩
      rw [hrest.takeWhile (by simp), hrest.dropWhile (by simp)]
      cases htag : cs.takeWhile isTagChar with
      | nil => exact absurd htag hsome
      | cons => rfl
  | underscore =>
    simp only [hstart] at h ⊢
    split at h
    next after =>
      obtain ⟨rfl, rfl⟩ := Prod.mk.inj (Except.ok.inj h)
      refine ⟨':' :: after.takeWhile isNameChar, ?_, fun rest' hrest => ?_⟩
      · rw [List.cons_append, List.takeWhile_append_dropWhile]
      · simp only [List.cons_append]
        rw [hrest.takeWhile (by simp), hrest.dropWhile (by simp)]
    next => cases h
  | digit =>
    simp only [hstart] at h ⊢
    have hc : c.isDigit := begins_of_start hstart
    have hkeeps := keeps_number (.inl rfl)
      (.inl (takeWhile_ne_nil_of_beginsWithDigit (show beginsWithDigit (c :: cs) from hc)))
      (Except.ok.inj h)
    obtain ⟨lexeme, rfl, hread⟩ := hkeeps.cons hlength
    exact ⟨lexeme, rfl, fun rest' hrest => congrArg _ (hread rest' hrest)⟩
  | sign =>
    simp only [hstart] at h ⊢
    have hsign : IsSign [c] :=
      .inr ((begins_of_start hstart).imp (congrArg fun c => [c]) (congrArg fun c => [c]))
    split at h
    next hsigned =>
      obtain ⟨hdigit, hvalue⟩ := Bool.and_eq_true_iff.1 hsigned
      have hbegins : cs.takeWhile Char.isDigit ≠ [] ∨ [c] = [] ∧ fraction cs ≠ [] :=
        .inl (takeWhile_ne_nil_of_beginsWithDigit hdigit)
      have hstop := head?_of_number hsign hbegins (Except.ok.inj h)
      obtain ⟨lexeme, rfl, hread⟩ := keeps_number hsign hbegins (Except.ok.inj h)
      refine ⟨lexeme, rfl, fun rest' hrest => ?_⟩
      rw [beginsWithDigit_append hstop hdigit, hvalue, hread rest' hrest]
      rfl
    next hmark =>
      obtain ⟨rfl, rfl⟩ := Prod.mk.inj (Except.ok.inj h)
      refine ⟨[], rfl, fun rest' hrest => ?_⟩
      rw [List.nil_append, if_neg]
      cases afterValue with
      | true => simp
      | false => simpa using hrest.beginsWithDigit (by simpa using hmark)
  | dot =>
    simp only [hstart] at h ⊢
    split at h
    next hdigit =>
      obtain rfl : c = '.' := begins_of_start hstart
      have hbegins : ('.' :: cs).takeWhile Char.isDigit ≠ [] ∨
          ([] : List Char) = [] ∧ fraction ('.' :: cs) ≠ [] :=
        .inr ⟨rfl, fraction_ne_nil hdigit⟩
      have hstop := head?_of_number (.inl rfl) hbegins (Except.ok.inj h)
      obtain ⟨lexeme, rfl, hread⟩ := (keeps_number (.inl rfl) hbegins (Except.ok.inj h)).cons hlength
      refine ⟨lexeme, rfl, fun rest' hrest => ?_⟩
      rw [if_pos (beginsWithDigit_append hstop hdigit rest'), hread rest' hrest]
    next hmark =>
      obtain ⟨rfl, rfl⟩ := Prod.mk.inj (Except.ok.inj h)
      refine ⟨[], rfl, fun rest' hrest => ?_⟩
      rw [List.nil_append, hrest.beginsWithDigit (by simpa using hmark)]
      rfl
  | caret | bang | greater | bar =>
    simp only [hstart] at h ⊢
    obtain ⟨lexeme, rfl, hread⟩ := keeps_either (by simp) (Except.ok.inj h)
    exact ⟨lexeme, rfl, fun rest' hrest => congrArg _ (hread rest' hrest)⟩
  | ampersand =>
    simp only [hstart] at h ⊢
    split at h
    next after =>
      obtain ⟨rfl, rfl⟩ := Prod.mk.inj (Except.ok.inj h)
      exact ⟨['&'], rfl, fun rest' _ => rfl⟩
    next => cases h
  | mark m =>
    simp only [hstart] at h ⊢
    obtain ⟨rfl, rfl⟩ := Prod.mk.inj (Except.ok.inj h)
    exact ⟨[], rfl, fun rest' _ => rfl⟩
  | word =>
    simp only [hstart] at h ⊢
    obtain ⟨lexeme, rfl, hread⟩ := (keeps_word (Except.ok.inj h)).cons hlength
    exact ⟨lexeme, rfl, fun rest' hrest => congrArg _ (hread rest' hrest)⟩
  | other => simp [hstart] at h

theorem fraction_eq_nil_of_append {a b : List Char} (h : fraction (a ++ b) = []) :
    fraction a = [] := by
  unfold fraction
  split
  next d a =>
    simp only [List.cons_append, fraction] at h
    split at h
    next => cases h
    next hdigit => rw [if_neg hdigit]
  next => rfl

theorem exponentDigits_eq_nil_of_append {a b : List Char} (h : exponentDigits (a ++ b) = []) :
    exponentDigits a = [] := by
  cases a with
  | nil => rfl
  | cons d a =>
    simp only [List.cons_append, exponentDigits] at h ⊢
    split at h
    next => cases h
    next hdigit =>
      rw [if_neg hdigit]
      split at h
      next hsign =>
        rw [if_pos hsign]
        cases a with
        | nil => rfl
        | cons e a => by_cases he : e.isDigit <;> simp_all
      next hsign => rw [if_neg hsign]

theorem exponent_eq_nil_of_append {a b : List Char} (h : exponent (a ++ b) = []) :
    exponent a = [] := by
  cases a with
  | nil => rfl
  | cons e a =>
    simp only [List.cons_append, exponent] at h ⊢
    split at h
    next he =>
      rw [if_pos he]
      split at h
      next hdigits => simp only [exponentDigits_eq_nil_of_append hdigits]
      next => cases h
    next he => rw [if_neg he]

theorem Unnoticed.of_separated (a b : List Char) {s : List Char} (hs : Separated s) :
    Unnoticed (a ++ b) (a ++ s) where
  run p hp h c hc := by
    have hends : ∀ c ∈ s.head?, p c = false := by
      have hs := ends_of_separated hs
      simp only [List.mem_cons, List.not_mem_nil, or_false] at hp
      rcases hp with rfl | rfl | rfl
      · exact hs.not isNameChar_of_isEnd
      · exact hs.not isTagChar_of_isEnd
      · exact hs.not isDigit_of_isEnd
    cases a with
    | nil => exact hends c hc
    | cons d a => exact h c hc
  dotted p hp h := by
    have hends : ∀ c ∈ s.head?, p c = false := by
      have hs := ends_of_separated hs
      simp only [List.mem_cons, List.not_mem_nil, or_false] at hp
      rcases hp with rfl | rfl
      · exact hs.not isWordChar_of_isEnd
      · exact hs.not isLocalChar_of_isEnd
    rw [dottedRun_eq_nil_iff] at h ⊢
    rw [takeWhile_append_of_head? hends]
    intro c hc
    refine h c ?_
    rw [List.takeWhile_append]
    split
    next => exact List.mem_append_left _ (List.takeWhile_subset p hc)
    next => exact hc
  mark c hc h := by
    cases a with
    | nil =>
      have hblank : [':', '=', '^', '|', '"', '\''].all (!Text.isBlank ·) := by decide
      exact ne_of_separated (by simpa using List.all_eq_true.1 hblank c hc) hs
    | cons d a => exact h
  fraction h := by
    rw [fraction_append_ends a (ends_of_separated hs)]
    exact fraction_eq_nil_of_append h
  exponent h := by
    rw [exponent_append_ends a (ends_of_separated hs)]
    exact exponent_eq_nil_of_append h
  reference lexeme h := by
    rw [← List.append_assoc] at h ⊢
    rw [reference?_append_separated _ hs, Option.map_eq_none_iff]
    cases hread : reference? (lexeme ++ a) with
    | none => rfl
    | some r => exact nomatch h.symm.trans (reference?_append_of_some hread b)

end LinkedRaces.Scanner
