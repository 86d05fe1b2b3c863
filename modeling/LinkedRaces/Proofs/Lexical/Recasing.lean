import LinkedRaces.Proofs.Lexical.Alike
import LinkedRaces.Proofs.Lexical.LineBreaks
import LinkedRaces.Proofs.Lexical.Layout
import LinkedRaces.Proofs.Lexical.Lexing
import LinkedRaces.Proofs.Lexical.Unnoticed
import LinkedRaces.Proofs.Text.IgnoringCase

/-!
Tokens and the case of ASCII letters. What a scanner takes from the front of a text does not depend
on the case of the letters behind it, and a word in other letters is a word.
-/

namespace LinkedRaces

namespace Text

theorem eq_of_toLower {c d : Char} (hc : c.isAlpha = false) (h : c.toLower = d.toLower) :
    c = d := by
  have heq :=
    caseBlind_of_ascii (f := fun c : Char => if c.isAlpha then none else some c) (by decide) h
  simp only [hc, Bool.false_eq_true, if_false] at heq
  split at heq
  · cases heq
  · exact Option.some.inj heq

namespace Recased

variable {c d : Char} {cs ds as bs : List Char}

theorem append (h : Recased cs ds) (h' : Recased as bs) : Recased (cs ++ as) (ds ++ bs) := by
  simp only [Recased, List.map_append] at h h' ⊢
  rw [h, h']

theorem exists_append (h : Recased (cs ++ as) ds) :
    ∃ ds' bs, ds = ds' ++ bs ∧ Recased cs ds' ∧ Recased as bs := by
  induction cs generalizing ds with
  | nil => exact ⟨[], ds, rfl, rfl, h⟩
  | cons c cs ih =>
    obtain ⟨d, ds, rfl, hcd, hrest⟩ := h.exists_cons
    obtain ⟨ds', bs, rfl, hds, hbs⟩ := ih hrest
    exact ⟨d :: ds', bs, rfl, cons_iff.2 ⟨hcd, hds⟩, hbs⟩

theorem eq_of_not_alpha (h : Recased cs ds) (hcs : ∀ c ∈ cs, c.isAlpha = false) : ds = cs := by
  induction cs generalizing ds with
  | nil => exact h.nil_eq
  | cons c cs ih =>
    obtain ⟨d, ds, rfl, hcd, hrest⟩ := h.exists_cons
    obtain ⟨hc, hcs⟩ := List.forall_mem_cons.1 hcs
    rw [eq_of_toLower hc hcd, ih hrest hcs]

theorem all {p : Char → Bool} (hp : CaseBlind p) (h : Recased cs ds) (hcs : ∀ c ∈ cs, p c) :
    ∀ d ∈ ds, p d := by
  induction cs generalizing ds with
  | nil => rw [h.nil_eq]; simp
  | cons c cs ih =>
    obtain ⟨d, ds, rfl, hcd, hrest⟩ := h.exists_cons
    obtain ⟨hc, hcs⟩ := List.forall_mem_cons.1 hcs
    exact List.forall_mem_cons.2 ⟨hp hcd ▸ hc, ih hrest hcs⟩

theorem head_not {p : Char → Bool} (hp : CaseBlind p) (h : Recased cs ds)
    (hcs : ∀ c ∈ cs.head?, p c = false) : ∀ d ∈ ds.head?, p d = false := by
  cases cs with
  | nil => rw [h.nil_eq]; simp
  | cons c cs =>
    obtain ⟨d, ds, rfl, hcd, -⟩ := h.exists_cons
    have hd : p d = false := (hp hcd).symm.trans (hcs c rfl)
    simpa using hd

theorem head_ne (hc : c.isAlpha = false) (h : Recased cs ds) (hcs : cs.head? ≠ some c) :
    ds.head? ≠ some c := by
  cases cs with
  | nil => rw [h.nil_eq]; simp
  | cons d cs =>
    obtain ⟨e, ds, rfl, hde, -⟩ := h.exists_cons
    simp only [List.head?_cons, ne_eq, Option.some.injEq] at hcs ⊢
    rintro rfl
    exact hcs (eq_of_toLower hc hde.symm).symm

theorem getLast_ne (hc : c.isAlpha = false) (h : Recased cs ds) (hcs : cs.getLast? ≠ some c) :
    ds.getLast? ≠ some c := by
  rw [← List.head?_reverse] at hcs ⊢
  exact head_ne hc (by simpa [Recased] using congrArg List.reverse h) hcs

end Recased

end Text

namespace Scanner

open Text (CaseBlind Recased caseBlind_of_ascii)

theorem caseBlind_isNameChar : CaseBlind isNameChar := caseBlind_of_ascii (by decide)

theorem caseBlind_isWordChar : CaseBlind isWordChar := caseBlind_of_ascii (by decide)

theorem caseBlind_isLocalChar : CaseBlind isLocalChar := caseBlind_of_ascii (by decide)

theorem caseBlind_isTagChar : CaseBlind isTagChar := caseBlind_of_ascii (by decide)

theorem caseBlind_isDigit : CaseBlind Char.isDigit := caseBlind_of_ascii (by decide)

theorem caseBlind_endsReference : CaseBlind endsReference := caseBlind_of_ascii (by decide)

theorem caseBlind_start : CaseBlind start := caseBlind_of_ascii (by decide)

/-- A run is taken in other letters too, and with other letters behind it. -/
theorem dottedRun_recased {p : Char → Bool} (hp : CaseBlind p) {cs run rest : List Char}
    (hrun : Recased (dottedRun p cs) run) (hrest : Recased (afterRun p cs) rest) :
    dottedRun p (run ++ rest) = run := by
  obtain ⟨dots, htake, hdots, hafter, hlast⟩ := exists_dots p cs
  rw [hafter] at hrest
  obtain ⟨dots', rest, rfl, hdots', hbehind⟩ := hrest.exists_append
  obtain rfl : dots' = dots := hdots'.eq_of_not_alpha fun c hc => hdots c hc ▸ rfl
  have hall : ∀ c ∈ dottedRun p cs ++ dots', p c :=
    htake ▸ fun c hc => List.mem_takeWhile_imp hc
  obtain ⟨hallRun, hallDots⟩ := List.forall_mem_append.1 hall
  exact dottedRun_append_dots (hrun.all hp hallRun) (hrun.getLast_ne (by decide) hlast) hallDots
    hdots (hbehind.head_not hp (head?_dropWhile p cs))

theorem afterRun_recased {p : Char → Bool} (hp : CaseBlind p) {cs run rest : List Char}
    (hrun : Recased (dottedRun p cs) run) (hrest : Recased (afterRun p cs) rest) :
    afterRun p (run ++ rest) = rest := by
  rw [afterRun, dottedRun_recased hp hrun hrest, List.drop_left]

theorem word_recased {cs rest : List Char} {text : String} (h : word cs = (.word text, rest)) :
    cs = text.toList ++ rest ∧ ∀ run rest', Recased text.toList run → Recased rest rest' →
      word (run ++ rest') = (.word (String.ofList run), rest') := by
  unfold word at h
  split at h
  next => cases h
  next hcolon =>
    obtain ⟨htext, rfl⟩ := Prod.mk.inj h
    obtain rfl := Token.word.inj htext
    rw [String.toList_ofList]
    refine ⟨(dottedRun_append_afterRun _ _).symm, fun run rest' hrun hrest => ?_⟩
    unfold word
    rw [dottedRun_recased caseBlind_isWordChar hrun hrest,
      afterRun_recased caseBlind_isWordChar hrun hrest]
    split
    next after =>
      obtain ⟨c, cs', hc, hcd, -⟩ := hrest.symm.exists_cons
      obtain rfl : ':' = c := Text.eq_of_toLower (by decide) hcd
      exact absurd hc (hcolon cs')
    next => rfl

theorem not_alpha_of_isDigit {c : Char} (h : c.isDigit) : c.isAlpha = false := by
  have hascii : c.toNat < 128 := by
    simp only [Char.isDigit, Bool.and_eq_true, decide_eq_true_eq] at h
    have hle : c.toNat ≤ 57 := UInt32.le_iff_toNat_le.1 h.2
    omega
  exact Text.forall_ascii (P := fun c => c.isDigit → c.isAlpha = false) (by decide) hascii h

theorem takeWhile_isDigit_recased {cs ds : List Char} (h : Recased cs ds) :
    ds.takeWhile Char.isDigit = cs.takeWhile Char.isDigit := by
  induction cs generalizing ds with
  | nil => rw [h.nil_eq]
  | cons c cs ih =>
    obtain ⟨d, ds, rfl, hcd, hrest⟩ := h.exists_cons
    cases hc : c.isDigit with
    | true =>
      obtain rfl := Text.eq_of_toLower (not_alpha_of_isDigit hc) hcd
      rw [List.takeWhile_cons_of_pos hc, List.takeWhile_cons_of_pos hc, ih hrest]
    | false =>
      have hd : d.isDigit = false := (caseBlind_isDigit hcd).symm.trans hc
      rw [List.takeWhile_cons_of_neg (by simp [hd]), List.takeWhile_cons_of_neg (by simp [hc])]

theorem eq_iff_of_toLower {c d e : Char} (he : e.isAlpha = false) (h : c.toLower = d.toLower) :
    c = e ↔ d = e :=
  ⟨fun hc => by subst hc; exact (Text.eq_of_toLower he h).symm,
    fun hd => by subst hd; exact (Text.eq_of_toLower he h.symm).symm⟩

theorem fraction_recased {cs ds : List Char} (h : Recased cs ds) (hcs : fraction cs = []) :
    fraction ds = [] := by
  unfold fraction
  split
  next d ds =>
    obtain ⟨c, cs, rfl, hc, hrest⟩ := h.symm.exists_cons
    obtain ⟨d', cs, rfl, hd, -⟩ := hrest.exists_cons
    obtain rfl : '.' = c := Text.eq_of_toLower (by decide) hc
    have hdigit := caseBlind_isDigit hd
    simp only [fraction] at hcs
    split at hcs
    next => cases hcs
    next hnot => rw [if_neg (hdigit ▸ hnot)]
  next => rfl

theorem exponentDigits_recased {cs ds : List Char} (h : Recased cs ds) :
    exponentDigits ds = exponentDigits cs := by
  cases cs with
  | nil => rw [h.nil_eq]
  | cons c cs =>
    obtain ⟨d, ds, rfl, hcd, hrest⟩ := h.exists_cons
    have htake := takeWhile_isDigit_recased hrest
    have hplus := eq_iff_of_toLower (e := '+') (by decide) hcd
    have hminus := eq_iff_of_toLower (e := '-') (by decide) hcd
    have hdigit := caseBlind_isDigit hcd
    by_cases hfixed : c.isDigit ∨ c = '+' ∨ c = '-'
    · obtain rfl : c = d := by
        rcases hfixed with hc | rfl | rfl
        · exact Text.eq_of_toLower (not_alpha_of_isDigit hc) hcd
        · exact (hplus.1 rfl).symm
        · exact (hminus.1 rfl).symm
      simp only [exponentDigits, htake]
    · simp only [not_or] at hfixed
      simp only [exponentDigits, ← hdigit, ← hplus, ← hminus, hfixed.1, hfixed.2,
        Bool.false_eq_true, or_self, if_false]

theorem exponent_recased {cs ds : List Char} (h : Recased cs ds) (hcs : exponent cs = []) :
    exponent ds = [] := by
  cases cs with
  | nil => rw [h.nil_eq]; rfl
  | cons c cs =>
    obtain ⟨d, ds, rfl, hcd, hrest⟩ := h.exists_cons
    have hmark : (c = 'e' ∨ c = 'E') = (d = 'e' ∨ d = 'E') :=
      Text.caseBlind_of_ascii (f := fun c => c = 'e' ∨ c = 'E') (by decide) hcd
    have hdigits := exponentDigits_recased hrest
    simp only [exponent, ← hmark, hdigits] at hcs ⊢
    split
    next he =>
      rw [if_pos he] at hcs
      split at hcs
      next hnone => rfl
      next => cases hcs
    next => rfl

theorem reference?_recased {cs ds : List Char} (h : Recased cs ds) (hcs : reference? cs = none) :
    reference? ds = none := by
  induction cs generalizing ds with
  | nil => rw [h.nil_eq]; rfl
  | cons c cs ih =>
    obtain ⟨d, ds, rfl, hcd, hrest⟩ := h.exists_cons
    have hclose := eq_iff_of_toLower (e := '>') (by decide) hcd
    have hend := caseBlind_endsReference hcd
    simp only [reference?, hclose, hend] at hcs ⊢
    split at hcs
    next => cases hcs
    next hopen =>
      rw [if_neg hopen]
      split at hcs
      next hends => rw [if_pos hends]
      next hends => rw [if_neg hends, ih hrest (Option.map_eq_none_iff.1 hcs), Option.map_none]

theorem Unnoticed.of_recased {rest rest' : List Char} (h : Recased rest rest') :
    Unnoticed rest rest' where
  run p hp := by
    simp only [List.mem_cons, List.not_mem_nil, or_false] at hp
    rcases hp with rfl | rfl | rfl
    · exact h.head_not caseBlind_isNameChar
    · exact h.head_not caseBlind_isTagChar
    · exact h.head_not caseBlind_isDigit
  dotted p hp hnone := by
    have hrun : Recased (dottedRun p rest) [] := hnone ▸ Recased.refl []
    have hafter : Recased (afterRun p rest) rest' := by simpa [afterRun, hnone] using h
    simp only [List.mem_cons, List.not_mem_nil, or_false] at hp
    rcases hp with rfl | rfl
    · exact dottedRun_recased caseBlind_isWordChar hrun hafter
    · exact dottedRun_recased caseBlind_isLocalChar hrun hafter
  mark c hc := by
    have hmark : [':', '=', '^', '|', '"', '\''].all (!Char.isAlpha ·) := by decide
    exact h.head_ne (by simpa using List.all_eq_true.1 hmark c hc)
  fraction := fraction_recased h
  exponent := exponent_recased h
  reference lexeme := reference?_recased (Recased.append (.refl lexeme) h)

theorem tokenAfter_word_recased {comparing afterValue : Bool} {c : Char} {cs rest : List Char}
    {text : String} (h : tokenAfter comparing afterValue c cs = .ok (.word text, rest)) :
    c :: cs = text.toList ++ rest ∧ ∀ d run rest', Recased text.toList (d :: run) →
      Recased rest rest' → tokenAfter comparing afterValue d (run ++ rest') =
        .ok (.word (String.ofList (d :: run)), rest') := by
  have hgives := gives_of_tokenAfter h
  have hstart : start c = .word := by cases hc : start c <;> simp_all [Start.gives]
  have hword : word (c :: cs) = (.word text, rest) := by
    simpa only [tokenAfter, hstart, Except.ok.injEq] using h
  obtain ⟨hcs, hrecased⟩ := word_recased hword
  refine ⟨hcs, fun d run rest' hrun hrest => ?_⟩
  have hread := hrecased (d :: run) rest' hrun hrest
  have hd : start d = .word := by
    cases htext : text.toList with
    | nil =>
      rw [htext] at hrun
      cases hrun
    | cons e more =>
      rw [htext] at hcs hrun
      obtain ⟨rfl, -⟩ := List.cons.inj hcs
      exact (caseBlind_start (Recased.cons_iff.1 hrun).1).symm.trans hstart
  rw [List.cons_append] at hread
  simp only [tokenAfter, hd, hread]

end Scanner

open Text (Recased)

def Token.freeWord? : Token → Option String
  | .word text => if IsFreeWord text then some text else none
  | _ => none

theorem Token.freeWord?_eq_some_iff {t : Token} {word : String} :
    t.freeWord? = some word ↔ t = .word word ∧ IsFreeWord word := by
  cases t with
  | word text =>
    simp only [freeWord?, Option.ite_none_right_eq_some, Option.some.injEq, Token.word.injEq]
    exact ⟨fun ⟨h, heq⟩ => ⟨heq, heq ▸ h⟩, fun ⟨heq, h⟩ => ⟨heq ▸ h, heq⟩⟩
  | _ => simp [freeWord?]

/-- With `n` characters behind it, a character belongs to such a word of `ts`. -/
def InFreeWord (ts : Tokens) (n : Nat) : Prop :=
  ∃ x ∈ ts, ∃ word ∈ x.token.freeWord?, n < x.text.length ∧ x.text.length ≤ n + word.length

instance (ts : Tokens) (n : Nat) : Decidable (InFreeWord ts n) :=
  inferInstanceAs (Decidable (∃ x ∈ ts, ∃ word ∈ x.token.freeWord?, _))

/-- The second text is the first one, but for the case of ASCII letters in such words of `ts`. -/
def Recasing (ts : Tokens) : List Char → List Char → Prop
  | [], [] => True
  | c :: cs, d :: ds =>
    (c = d ∨ c.toLower = d.toLower ∧ InFreeWord ts cs.length) ∧ Recasing ts cs ds
  | _, _ => False

instance Recasing.decidable (ts : Tokens) : ∀ cs ds, Decidable (Recasing ts cs ds)
  | [], [] => .isTrue trivial
  | [], _ :: _ => .isFalse id
  | _ :: _, [] => .isFalse id
  | _ :: cs, _ :: ds =>
    have := Recasing.decidable ts cs ds
    inferInstanceAs (Decidable ((_ ∨ _ ∧ _) ∧ _))

namespace Recasing

variable {ts us : Tokens} {as cs ds : List Char}

theorem mono (h : Recasing ts cs ds)
    (hwords : ∀ n < cs.length, InFreeWord ts n → InFreeWord us n) : Recasing us cs ds := by
  induction cs generalizing ds with
  | nil =>
    cases ds with
    | nil => trivial
    | cons d ds => cases h
  | cons c cs ih =>
    cases ds with
    | nil => cases h
    | cons d ds =>
      exact ⟨h.1.imp_right (And.imp_right (hwords _ (by simp))),
        ih h.2 fun n hn => hwords n (by simp; omega)⟩

theorem recased (h : Recasing ts cs ds) : Recased cs ds := by
  induction cs generalizing ds with
  | nil =>
    cases ds with
    | nil => rfl
    | cons d ds => cases h
  | cons c cs ih =>
    cases ds with
    | nil => cases h
    | cons d ds =>
      refine Text.Recased.cons_iff.2 ⟨?_, ih h.2⟩
      rcases h.1 with rfl | ⟨hcd, -⟩
      · rfl
      · exact hcd

theorem exists_append (h : Recasing ts (as ++ cs) ds) :
    ∃ bs ds', ds = bs ++ ds' ∧ Recased as bs ∧ Recasing ts cs ds' ∧
      ((∀ n, cs.length ≤ n → ¬ InFreeWord ts n) → bs = as) := by
  induction as generalizing ds with
  | nil => exact ⟨[], ds, rfl, .refl [], h, fun _ => rfl⟩
  | cons a as ih =>
    cases ds with
    | nil => cases h
    | cons d ds =>
      obtain ⟨had, hrest⟩ := h
      obtain ⟨bs, ds', rfl, hbs, hds, hfixed⟩ := ih hrest
      refine ⟨d :: bs, ds', rfl, Text.Recased.cons_iff.2 ⟨?_, hbs⟩, hds, fun hnone => ?_⟩
      · rcases had with rfl | ⟨had, -⟩
        · rfl
        · exact had
      · rcases had with rfl | ⟨-, hword⟩
        · rw [hfixed hnone]
        · exact absurd hword (hnone _ (by simp))

end Recasing

namespace Token.Alike

variable {x y : Token}

theorem endsValue_eq (h : x.Alike y) : x.endsValue = y.endsValue := by cases h <;> rfl

theorem depthAfter_eq (h : x.Alike y) (depth : Nat) :
    Tokenizer.depthAfter depth x = Tokenizer.depthAfter depth y := by cases h <;> rfl

end Token.Alike

namespace Scanner

theorem tokenAfter_recasing {comparing afterValue : Bool} {c : Char} {cs rest ds : List Char}
    {t : Token} {ts : Tokens} (h : tokenAfter comparing afterValue c cs = .ok (t, rest))
    (hts : ∀ x ∈ ts, x.text.length ≤ rest.length)
    (hds : Recasing (⟨t, c :: cs⟩ :: ts) (c :: cs) ds) :
    ∃ d lexeme ds' u, ds = d :: (lexeme ++ ds') ∧ t.Alike u ∧ Recasing ts rest ds' ∧
      tokenAfter comparing afterValue d (lexeme ++ ds') = .ok (u, ds') := by
  have hlater {n : Nat} (hn : rest.length ≤ n) : ¬ InFreeWord ts n := by
    rintro ⟨x, hx, -, -, hlt, -⟩
    have := hts x hx
    omega
  cases hword : t.freeWord? with
  | some text =>
    obtain ⟨rfl, hfree⟩ := Token.freeWord?_eq_some_iff.1 hword
    obtain ⟨hcs, hread⟩ := tokenAfter_word_recased h
    rw [hcs] at hds
    obtain ⟨run, ds', rfl, hrun, hds', -⟩ := hds.exists_append
    have hlength := length_tokenAfter_le h
    cases run with
    | nil =>
      have hempty : text.toList = [] := hrun.symm.nil_eq
      rw [hempty] at hcs
      have := congrArg List.length hcs
      simp only [List.nil_append, List.length_cons] at this
      omega
    | cons d run =>
      refine ⟨d, run, ds', .word (String.ofList (d :: run)), rfl, .word ?_ hfree, ?_, ?_⟩
      · exact Text.eqIgnoringCase_iff.2 (by rwa [String.toList_ofList])
      · refine hds'.mono fun n hn hword => ?_
        obtain ⟨x, hx, word, hfound, hlt, hle⟩ := hword
        rcases List.mem_cons.1 hx with rfl | hx
        · obtain rfl := Token.word.inj (Token.freeWord?_eq_some_iff.1 hfound).1
          have := congrArg List.length hcs
          simp only [List.length_append, String.length_toList] at this hle
          omega
        · exact ⟨x, hx, word, hfound, hlt, hle⟩
      · exact hread d run ds' hrun hds'.recased
  | none =>
    have hother {n : Nat} (h : InFreeWord (⟨t, c :: cs⟩ :: ts) n) : InFreeWord ts n := by
      obtain ⟨x, hx, word, hfound, hbounds⟩ := h
      rcases List.mem_cons.1 hx with rfl | hx
      · exact nomatch hword.symm.trans hfound
      · exact ⟨x, hx, word, hfound, hbounds⟩
    obtain ⟨lexeme, rfl, hread⟩ := tokenAfter_unnoticed h
    rw [← List.cons_append] at hds
    obtain ⟨run, ds', rfl, -, hds', hfixed⟩ := hds.exists_append
    obtain rfl := hfixed fun n hn hword => hlater hn (hother hword)
    exact ⟨c, lexeme, ds', t, rfl, .refl t, hds'.mono fun n _ => hother,
      hread ds' (.of_recased hds'.recased)⟩

end Scanner

theorem Tokenizer.tokensFrom_recasing {cs ds : List Char} {depth : Nat} {afterValue : Bool}
    {ts : Tokens} (h : tokensFrom depth afterValue cs = .ok ts) (hds : Recasing ts cs ds) :
    ∃ us, tokensFrom depth afterValue ds = .ok us ∧ AllAlike ts us := by
  have hblanks := Scanner.length_skipBlanks_le cs
  cases hs : Scanner.skipBlanks cs with
  | nil =>
    rw [tokensFrom_of_skipBlanks_nil hs] at h
    cases h
    rw [← List.append_nil cs] at hds
    obtain ⟨bs, ds', rfl, -, hnil, hfixed⟩ := hds.exists_append
    obtain rfl := hfixed fun n _ ⟨x, hx, _⟩ => nomatch hx
    obtain rfl : ds' = [] := hnil.recased.nil_eq
    exact ⟨[], by rw [List.append_nil, tokensFrom_of_skipBlanks_nil hs], .nil⟩
  | cons c rest =>
    rw [hs, List.length_cons] at hblanks
    rw [tokensFrom_of_skipBlanks_cons hs] at h
    split at h
    next => cases h
    next t rest' ht =>
      have hrest := Scanner.length_tokenAfter_le ht
      have hlt : rest'.length < cs.length := by omega
      cases hmore : tokensFrom (depthAfter depth t) t.endsValue rest' with
      | error e =>
        rw [hmore] at h
        cases h
      | ok vs =>
        rw [hmore] at h
        cases h
        obtain ⟨gap, hcs, hgap⟩ := Scanner.exists_gap hs
        rw [hcs] at hds
        obtain ⟨bs, ds', rfl, -, hds', hfixed⟩ := hds.exists_append
        have hbounds (x) (hx : x ∈ vs) := ((pairwise_tokensFrom hmore).2 x hx).2
        obtain rfl := hfixed fun n hn ⟨x, hx, _, _, hbehind, _⟩ => by
          rw [List.length_cons] at hn
          rcases List.mem_cons.1 hx with rfl | hx
          · simp only [List.length_cons] at hbehind
            omega
          · have := hbounds x hx
            omega
        obtain ⟨d, lexeme, ds, u, rfl, hu, hds, hread⟩ :=
          Scanner.tokenAfter_recasing ht hbounds hds'
        obtain ⟨us, hus, halike⟩ := tokensFrom_recasing hmore hds
        have hskip : Scanner.skipBlanks (bs ++ d :: (lexeme ++ ds)) = d :: (lexeme ++ ds) :=
          (Scanner.skipBlanks_append hgap _).trans
            (Scanner.skipBlanks_of_start (Scanner.start_of_tokenAfter hread) _)
        refine ⟨⟨u, d :: (lexeme ++ ds)⟩ :: us, ?_, .cons hu halike⟩
        rw [hu.depthAfter_eq, hu.endsValue_eq] at hus
        rw [tokensFrom_of_skipBlanks_cons hskip, hread]
        simp only [hus]
        rfl
termination_by cs.length

end LinkedRaces
