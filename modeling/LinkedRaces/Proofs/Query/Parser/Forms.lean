import LinkedRaces.Proofs.Query.Parser.Groups
import LinkedRaces.Query.Parser.Forms

/-! Forms and modifiers, read back from the tokens of their words, and with them whole queries. -/

namespace LinkedRaces.QueryParser

open Tokens (took)
open Words (tokens)

variable {t : Namespaces} {g : Group}

theorem eraseDups_of_nodup {names : List String} (h : names.Nodup) : names.eraseDups = names := by
  induction names with
  | nil => rfl
  | cons name names ih =>
    obtain ⟨hname, hnames⟩ := List.nodup_cons.1 h
    have hfilter : (names.filter fun other => !other == name) = names := by
      refine List.filter_eq_self.2 fun other hother => ?_
      have hne : other ≠ name := by
        rintro rfl
        exact hname hother
      simpa using hne
    rw [List.eraseDups_cons, hfilter, ih hnames]

theorem projection_of_nextIsNot {ts : Tokens} (h : NextIsNot (· = .mark .star) ts) :
    projection ts = (do
      let (names, rest) ← selected ts
      if names.isEmpty then fail .selected rest else .ok (.vars names.eraseDups, rest)) :=
  projection.eq_2 ts fun text rest heq => h _ (by rw [heq]; rfl) rfl

theorem resources_of_nextIsNot (t : Namespaces) {ts : Tokens}
    (h : NextIsNot (· = .mark .star) ts) :
    resources t ts = (do
      let (terms, rest) ← described t ts
      if terms.isEmpty then fail .described rest else .ok (terms, rest)) :=
  resources.eq_2 t ts fun text rest heq => h _ (by rw [heq]; rfl) rfl

def NextWord (word : String) (rest : Tokens) : Prop := ∃ text rest', rest = ⟨.word word, text⟩ :: rest'

theorem selected_names {names : List String} {ls rest : Tokens} {word : String}
    (hls : ls.map Located.token = names.map Token.var) (hrest : NextWord word rest) :
    selected (ls ++ rest) = .ok (names, rest) := by
  induction names generalizing ls with
  | nil =>
    obtain rfl := List.map_eq_nil_iff.1 hls
    obtain ⟨text, rest', rfl⟩ := hrest
    rfl
  | cons name names ih =>
    obtain ⟨⟨_, text⟩, ln, rfl, rfl, hln⟩ := List.map_eq_cons_iff.1 hls
    simp only [List.cons_append, selected, ih hln, bind, Except.bind]

theorem tokens_vars (names : List String) :
    tokens (names.map Word.var) = names.map Token.var := by
  induction names with
  | nil => rfl
  | cons name names ih =>
    rw [List.map_cons, Words.tokens_cons, ih]
    rfl

theorem projection_words {p : Projection} (h : QueryForm.Grammatical (.select p)) {ls rest : Tokens}
    {word : String} (hls : ls.map Located.token = tokens p.words) (hrest : NextWord word rest) :
    projection (ls ++ rest) = .ok (p, rest) := by
  cases p with
  | all =>
    obtain ⟨⟨_, text⟩, rfl, rfl⟩ := List.map_eq_singleton_iff.1 hls
    rfl
  | vars names =>
    obtain ⟨hne, hnodup, -⟩ := h
    have hls' : ls.map Located.token = names.map Token.var := hls.trans (tokens_vars names)
    have hselected := selected_names hls' hrest
    cases names with
    | nil => exact absurd rfl hne
    | cons name names =>
      obtain ⟨⟨_, text⟩, ls, rfl, rfl, -⟩ := List.map_eq_cons_iff.1 hls'
      simp only [List.cons_append] at hselected ⊢
      simp only [projection, hselected, bind, Except.bind, List.isEmpty_cons, Bool.false_eq_true,
        if_false, eraseDups_of_nodup hnodup]

theorem described_terms (ht : t.base = none) {resources : List Term}
    (h : ∀ r ∈ resources, r.isLiteral = false) {ls rest : Tokens} {word : String}
    (hls : ls.map Located.token = tokens (resources.map Word.term)) (hrest : NextWord word rest) :
    described t (ls ++ rest) = .ok (resources, rest) := by
  induction resources generalizing ls with
  | nil =>
    obtain rfl := List.map_eq_nil_iff.1 hls
    obtain ⟨text, rest', rfl⟩ := hrest
    rfl
  | cons r resources ih =>
    obtain ⟨hr, hresources⟩ := List.forall_mem_cons.1 h
    cases r with
    | iri i =>
      obtain ⟨⟨_, text⟩, lr, rfl, rfl, hlr⟩ := List.map_eq_cons_iff.1 hls
      simp only [List.cons_append, described, Iri.token, iri_token ht, took, Reading.stay,
        ih hresources hlr, bind, Except.bind]
    | literal l => cases hr
    | var name =>
      obtain ⟨⟨_, text⟩, lr, rfl, rfl, hlr⟩ := List.map_eq_cons_iff.1 hls
      simp only [List.cons_append, described, ih hresources hlr, bind, Except.bind]

theorem groupThen_words (ht : t.base = none) (hg : g.Grammatical) {ls : Tokens} (hls : ls.map Located.token = tokens g.words)
    (rest : Tokens) {α : Type} (f : Group → α) : groupThen t (ls ++ rest) f = .ok (f g, rest) := by
  obtain ⟨hlt, hread⟩ := takes_group ht hg ls rest hls trivial
  simp only [groupThen, hread, bind, Except.bind]

/-! The keyword before the group -/

theorem skipKeyword_where (text : List Char) (ts : Tokens) :
    skipKeyword "WHERE" (⟨.word "WHERE", text⟩ :: ts) = ts := by
  rfl

theorem nextIs_where (text : List Char) (ts : Tokens) :
    nextIs "WHERE" (⟨.word "WHERE", text⟩ :: ts) = true := by
  rfl

theorem rejectDataset_where (text : List Char) (ts : Tokens) :
    rejectDataset (⟨.word "WHERE", text⟩ :: ts) = .ok () := by
  rfl

theorem nextWord_where (text : List Char) (ts : Tokens) :
    NextWord "WHERE" (⟨.word "WHERE", text⟩ :: ts) := ⟨_, _, rfl⟩

theorem distinctness_words {p : Projection} (hp : QueryForm.Grammatical (.select p))
    {distinct : Bool} {ls : Tokens}
    (hls : ls.map Located.token =
      tokens ((if distinct then [.name "DISTINCT"] else []) ++ p.words)) (rest : Tokens) :
    ∃ lp, distinctness (ls ++ rest) = (distinct, lp ++ rest) ∧
      lp.map Located.token = tokens p.words := by
  cases distinct with
  | true =>
    obtain ⟨⟨_, text⟩, lp, rfl, rfl, hlp⟩ := List.map_eq_cons_iff.1 hls
    exact ⟨lp, rfl, hlp⟩
  | false =>
    refine ⟨ls, ?_, hls⟩
    cases p with
    | all =>
      obtain ⟨⟨_, text⟩, rfl, rfl⟩ := List.map_eq_singleton_iff.1 hls
      rfl
    | vars names =>
      cases names with
      | nil => exact absurd rfl hp.1
      | cons name names =>
        obtain ⟨⟨_, text⟩, ls, rfl, rfl, -⟩ := List.map_eq_cons_iff.1 hls
        rfl

theorem selectForm_words {p : Projection} (hp : QueryForm.Grammatical (.select p)) {ls ts rest : Tokens}
    (hls : ls.map Located.token = tokens p.words) (text : List Char)
    (hgroup : ∀ f : Group → QueryForm × Group, groupThen t ts f = .ok (f g, rest)) :
    selectForm t (ls ++ ⟨.word "WHERE", text⟩ :: ts) = .ok ((.select p, g), rest) := by
  simp only [selectForm, projection_words hp hls (nextWord_where text ts), bind, Except.bind,
    rejectDataset_where, skipKeyword_where, hgroup]

theorem constructForm_words (ht : t.base = none) {template : List TriplePattern}
    (h : ∀ p ∈ template, p.Grammatical) {ls ts rest : Tokens}
    (hls : ls.map Located.token =
      tokens (Words.braces (template.flatMap TriplePattern.words))) (text : List Char)
    (hgroup : ∀ f : Group → QueryForm × Group, groupThen t ts f = .ok (f g, rest)) :
    constructForm t (ls ++ ⟨.word "WHERE", text⟩ :: ts) = .ok ((.construct template, g), rest) := by
  obtain ⟨hlt, hread⟩ := takes_template ht h ls (⟨.word "WHERE", text⟩ :: ts) hls trivial
  obtain ⟨⟨_, brace⟩, ls, rfl, rfl, -⟩ := List.map_eq_cons_iff.1 hls
  have hbrace : nextIs "WHERE" (⟨.mark .openBrace, brace⟩ :: (ls ++ ⟨.word "WHERE", text⟩ :: ts)) =
      false := rfl
  simp only [List.cons_append] at hread ⊢
  simp only [constructForm, hbrace, Bool.false_eq_true, if_false, hread, bind, Except.bind,
    rejectDataset_where, nextIs_where, if_true, skipKeyword_where, hgroup]

theorem describeForm_words (ht : t.base = none) {resources : List Term}
    (h : ∀ r ∈ resources, r.isLiteral = false) {ls ts rest : Tokens}
    (hls : ls.map Located.token = tokens (resourceWords resources)) (text : List Char)
    (hgroup : ∀ f : Group → QueryForm × Group, groupThen t ts f = .ok (f g, rest)) :
    describeForm t (ls ++ ⟨.word "WHERE", text⟩ :: ts) = .ok ((.describe resources, g), rest) := by
  have hresources : QueryParser.resources t (ls ++ ⟨.word "WHERE", text⟩ :: ts) =
      .ok (resources, ⟨.word "WHERE", text⟩ :: ts) := by
    cases resources with
    | nil =>
      obtain ⟨⟨_, star⟩, rfl, rfl⟩ := List.map_eq_singleton_iff.1 hls
      rfl
    | cons r resources =>
      have hread := described_terms ht h hls (nextWord_where text ts)
      obtain ⟨hr, -⟩ := List.forall_mem_cons.1 h
      cases r with
      | iri i =>
        obtain ⟨⟨_, first⟩, ls, rfl, rfl, -⟩ := List.map_eq_cons_iff.1 hls
        simp only [List.cons_append] at hread ⊢
        simp only [QueryParser.resources, Iri.token] at hread ⊢
        simp only [hread, bind, Except.bind, List.isEmpty_cons, Bool.false_eq_true, if_false]
      | literal l => cases hr
      | var name =>
        obtain ⟨⟨_, first⟩, ls, rfl, rfl, -⟩ := List.map_eq_cons_iff.1 hls
        simp only [List.cons_append] at hread ⊢
        simp only [QueryParser.resources, hread, bind, Except.bind, List.isEmpty_cons,
          Bool.false_eq_true, if_false]
  simp only [describeForm, hresources, bind, Except.bind, rejectDataset_where, nextIs_where,
    Bool.true_or, if_true, skipKeyword_where, hgroup]

theorem form_words (ht : t.base = none) {f : QueryForm} {distinct : Bool} (hf : f.Grammatical)
    (hdistinct : distinct → ∃ p, f = .select p) (hg : g.Grammatical) {ls : Tokens}
    (hls : ls.map Located.token = tokens (f.words distinct) ++ .word "WHERE" :: tokens g.words)
    (rest : Tokens) : form t (ls ++ rest) = .ok ((f, g, distinct), rest) := by
  obtain ⟨lf, lw, rfl, hlf, hlw⟩ := List.map_eq_append_iff.1 hls
  obtain ⟨⟨_, text⟩, lg, rfl, rfl, hlg⟩ := List.map_eq_cons_iff.1 hlw
  rw [List.append_assoc, List.cons_append]
  have hgroup {α : Type} (f : Group → α) := groupThen_words ht hg hlg rest f
  -- only a selection drops duplicates
  have hother (hf : ∀ p, f ≠ .select p) : distinct = false := by
    cases distinct with
    | true =>
      obtain ⟨p, hp⟩ := hdistinct rfl
      exact absurd hp (hf p)
    | false => rfl
  cases f with
  | select p =>
    obtain ⟨⟨_, keyword⟩, ld, rfl, rfl, hld⟩ := List.map_eq_cons_iff.1 hlf
    have hform : formKeyword? (.word "SELECT") = some .select := by rfl
    obtain ⟨lp, hread, hlp⟩ := distinctness_words hf hld (⟨.word "WHERE", text⟩ :: (lg ++ rest))
    have hselect := selectForm_words hf hlp text hgroup
    simp only [List.cons_append, form, hform, hread, hselect, bind, Except.bind]
  | construct template =>
    obtain ⟨⟨_, keyword⟩, lt, rfl, rfl, hlt⟩ := List.map_eq_cons_iff.1 hlf
    have hform : formKeyword? (.word "CONSTRUCT") = some .construct := by rfl
    have hread := constructForm_words ht hf hlt text hgroup
    obtain rfl := hother (by simp)
    simp only [List.cons_append, form, hform, hread, bind, Except.bind]
  | ask =>
    obtain ⟨⟨_, keyword⟩, rfl, rfl⟩ := List.map_eq_singleton_iff.1 hlf
    have hform : formKeyword? (.word "ASK") = some .ask := by rfl
    obtain rfl := hother (by simp)
    simp only [List.singleton_append, form, hform, skipKeyword_where, hgroup]
  | describe resources =>
    obtain ⟨⟨_, keyword⟩, lr, rfl, rfl, hlr⟩ := List.map_eq_cons_iff.1 hlf
    have hform : formKeyword? (.word "DESCRIBE") = some .describe := by rfl
    have hread := describeForm_words ht (fun r hr => (hf r hr).1) hlr text hgroup
    obtain rfl := hother (by simp)
    simp only [List.cons_append, form, hform, hread, bind, Except.bind]

theorem orderKey?_words (k : OrderKey) {ls : Tokens} (hls : ls.map Located.token = tokens k.words)
    (rest : Tokens) : ∃ h, orderKey? (ls ++ rest) = .ok (some ⟨k, rest, h⟩) := by
  obtain ⟨name, ascending⟩ := k
  obtain ⟨⟨_, x₁⟩, ls, rfl, rfl, h₁⟩ := List.map_eq_cons_iff.1 hls
  obtain ⟨⟨_, x₂⟩, ls, rfl, rfl, h₂⟩ := List.map_eq_cons_iff.1 h₁
  obtain ⟨⟨_, x₃⟩, ls, rfl, rfl, h₃⟩ := List.map_eq_cons_iff.1 h₂
  obtain ⟨⟨_, x₄⟩, rfl, rfl⟩ := List.map_eq_singleton_iff.1 h₃
  have hasc : Token.isKeyword "ASC" (.word "ASC") = true := by rfl
  have hdesc : Token.isKeyword "ASC" (.word "DESC") = false := by rfl
  have hdesc' : Token.isKeyword "DESC" (.word "DESC") = true := by rfl
  refine ⟨by grind, ?_⟩
  cases ascending with
  | true =>
    simp only [if_true, List.cons_append, orderKey?, hasc, Bool.true_or]
    rfl
  | false =>
    simp only [Bool.false_eq_true, if_false, List.cons_append, orderKey?, hdesc, hdesc',
      Bool.or_true, if_true]
    rfl

theorem orderKeys_words {keys : List OrderKey} {ls rest : Tokens}
    (hls : ls.map Located.token = tokens (keys.flatMap OrderKey.words))
    (hrest : NextWord "LIMIT" rest) : ∃ h, orderKeys (ls ++ rest) = .ok ⟨keys, rest, h⟩ := by
  induction keys generalizing ls with
  | nil =>
    obtain rfl := List.map_eq_nil_iff.1 hls
    obtain ⟨text, rest', rfl⟩ := hrest
    refine ⟨by simp, ?_⟩
    rw [orderKeys]
    rfl
  | cons k keys ih =>
    rw [List.flatMap_cons, Words.tokens_append] at hls
    obtain ⟨lk, lr, rfl, hlk, hlr⟩ := List.map_eq_append_iff.1 hls
    obtain ⟨hltk, hreadk⟩ := orderKey?_words k hlk (lr ++ rest)
    obtain ⟨hltr, hreadr⟩ := ih hlr
    rw [List.append_assoc]
    refine ⟨by omega, ?_⟩
    rw [orderKeys]
    simp only [hreadk, hreadr, bind, Except.bind]
    rfl

theorem ofDigits_toDigits (n : Nat) : Number.ofDigits (Nat.toDigits 10 n) = n :=
  Nat.ofDigitChars_ten_toDigits

theorem ne_of_mem_toDigits {n : Nat} {c d : Char} (hc : c ∈ Nat.toDigits 10 n)
    (hd : d.isDigit = false) : c ≠ d := by
  rintro rfl
  have hdigit := Nat.isDigit_of_mem_toDigits (b := 10) (by decide) (by decide) hc
  rw [hd] at hdigit
  cases hdigit

theorem count_eq {n : Nat} (hn : n ≤ maxCount) (clause : String) (text : List Char) (rest : Tokens) :
    count clause (⟨.integer (toString n), text⟩ :: rest) =
      took n ⟨.integer (toString n), text⟩ rest := by
  have hdigits : (toString n).toList = Nat.toDigits 10 n := Nat.toList_repr
  have hhead : (Nat.toDigits 10 n).head? ≠ some '-' := fun h =>
    ne_of_mem_toDigits (List.mem_of_head? h) (by decide) rfl
  have hdrop : (Nat.toDigits 10 n).dropWhile (· == '+') = Nat.toDigits 10 n := by
    cases hds : Nat.toDigits 10 n with
    | nil => rfl
    | cons d ds =>
      have hd : d ≠ '+' := ne_of_mem_toDigits (hds ▸ List.mem_cons_self) (by decide)
      rw [List.dropWhile_cons, if_neg (by simpa using hd)]
  simp only [count, hdigits, hhead, if_false, hdrop, ofDigits_toDigits, Nat.min_eq_left hn]

theorem modifiers_nil (maxLimit : Nat) (m : Modifiers) : modifiers maxLimit m [] = .ok (m, []) := by
  rw [modifiers]

theorem modifiers_counts {maxLimit n k : Nat} (hn : n ≤ maxCount) (hlimit : n ≤ maxLimit)
    (hk : k ≤ maxCount) (m : Modifiers) {ls : Tokens}
    (hls : ls.map Located.token =
      tokens [.name "LIMIT", .count n, .name "OFFSET", .count k]) :
    modifiers maxLimit m ls = .ok ({ m with limit := n, offset := k }, []) := by
  obtain ⟨⟨_, x₁⟩, ls, rfl, rfl, h₁⟩ := List.map_eq_cons_iff.1 hls
  obtain ⟨⟨_, x₂⟩, ls, rfl, rfl, h₂⟩ := List.map_eq_cons_iff.1 h₁
  obtain ⟨⟨_, x₃⟩, ls, rfl, rfl, h₃⟩ := List.map_eq_cons_iff.1 h₂
  obtain ⟨⟨_, x₄⟩, rfl, rfl⟩ := List.map_eq_singleton_iff.1 h₃
  have hlimitWord : modifierKeyword? (.word "LIMIT") = some .limit := by rfl
  have hoffsetWord : modifierKeyword? (.word "OFFSET") = some .offset := by rfl
  rw [modifiers]
  simp only [hlimitWord, count_eq hn, took, Reading.stay, bind, Except.bind]
  rw [modifiers]
  simp only [hoffsetWord, count_eq hk, took, Reading.stay, bind, Except.bind]
  rw [modifiers, Nat.min_eq_left hlimit]

theorem modifiers_words {maxLimit : Nat} {m m₀ : Modifiers} (hmax : maxLimit ≤ maxCount)
    (hlimit : m.limit ≤ maxLimit) (hoffset : m.offset ≤ maxCount) (horder : m₀.orderBy = [])
    (hdistinct : m₀.distinct = m.distinct) {ls : Tokens} (hls : ls.map Located.token = tokens m.words) :
    modifiers maxLimit m₀ ls = .ok (m, []) := by
  obtain ⟨distinct, keys, n, k⟩ := m
  obtain ⟨distinct₀, keys₀, n₀, k₀⟩ := m₀
  obtain rfl : keys₀ = [] := horder
  obtain rfl : distinct₀ = distinct := hdistinct
  have hn : n ≤ maxCount := Nat.le_trans hlimit hmax
  rw [Modifiers.words, Words.tokens_append] at hls
  obtain ⟨lk, lc, rfl, hlk, hlc⟩ := List.map_eq_append_iff.1 hls
  have hcounts (m : Modifiers) := modifiers_counts hn hlimit hoffset m hlc
  cases keys with
  | nil =>
    obtain rfl := List.map_eq_nil_iff.1 hlk
    rw [List.nil_append, hcounts]
  | cons key keys =>
    obtain ⟨⟨_, x₁⟩, ls, rfl, rfl, h₁⟩ := List.map_eq_cons_iff.1 hlk
    obtain ⟨⟨_, x₂⟩, ls, rfl, rfl, h₂⟩ := List.map_eq_cons_iff.1 h₁
    have hnext : NextWord "LIMIT" lc := by
      obtain ⟨⟨_, text⟩, lc, rfl, rfl, -⟩ := List.map_eq_cons_iff.1 hlc
      exact ⟨_, _, rfl⟩
    obtain ⟨hlt, hread⟩ := orderKeys_words h₂ hnext
    have horderWord : modifierKeyword? (.word "ORDER") = some .order := by rfl
    have hread' : order (⟨.word "BY", x₂⟩ :: (ls ++ lc)) = .ok ⟨key :: keys, lc, hlt⟩ := by
      rw [order, if_pos (by rfl)]
      simp only [hread, bind, Except.bind]
      rfl
    simp only [List.cons_append]
    rw [modifiers]
    simp only [horderWord, hread', bind, Except.bind, List.nil_append, hcounts]

theorem prologue_words (f : QueryForm) (distinct : Bool) {ls : Tokens}
    (hls : ls.map Located.token = tokens (f.words distinct)) (rest : Tokens) :
    prologue t (ls ++ rest) = .ok (t, ls ++ rest) := by
  obtain ⟨keyword, ws, hws, hlabel, hbase⟩ : ∃ keyword ws, f.words distinct = .name keyword :: ws ∧
      Token.isKeyword "PREFIX" (.word keyword) = false ∧
      Token.isKeyword "BASE" (.word keyword) = false := by
    cases f with
    | select p => exact ⟨"SELECT", _, rfl, by rfl, by rfl⟩
    | construct template => exact ⟨"CONSTRUCT", _, rfl, by rfl, by rfl⟩
    | ask => exact ⟨"ASK", _, rfl, by rfl, by rfl⟩
    | describe resources => exact ⟨"DESCRIBE", _, rfl, by rfl, by rfl⟩
  rw [hws] at hls
  obtain ⟨⟨_, text⟩, ls, rfl, rfl, -⟩ := List.map_eq_cons_iff.1 hls
  rw [List.cons_append, prologue]
  simp only [hlabel, hbase, Bool.false_eq_true, if_false]

theorem query_words {q : Query} {maxLimit : Nat} (h : q.Grammatical)
    (ht : t.base = none) (hmax : maxLimit ≤ maxCount)
    (hlimit : q.modifiers.limit ≤ maxLimit) {ls : Tokens}
    (hls : ls.map Located.token = tokens q.words) :
    query t maxLimit ls = .ok { q with namespaces := t } := by
  have hwords : tokens q.words = (tokens (q.form.words q.modifiers.distinct) ++
      .word "WHERE" :: tokens q.group.words) ++ tokens q.modifiers.words := by
    simp [Query.words, Word.tokens]
  rw [hwords] at hls
  obtain ⟨lg, lm, rfl, hlg, hlm⟩ := List.map_eq_append_iff.1 hls
  obtain ⟨lf, lw, rfl, hlf, hlw⟩ := List.map_eq_append_iff.1 hlg
  have hprologue : prologue t (lf ++ lw ++ lm) = .ok (t, lf ++ lw ++ lm) := by
    rw [List.append_assoc]
    exact prologue_words q.form q.modifiers.distinct hlf _
  have hform := form_words ht h.form h.distinct h.group hlg lm
  have hmodifiers : modifiers maxLimit
      { Modifiers.ofLimit maxLimit with distinct := q.modifiers.distinct } lm =
      .ok (q.modifiers, []) :=
    modifiers_words hmax hlimit h.offset (by rfl) (by rfl) hlm
  simp only [query, hprologue, hform, hmodifiers, finish, bind, Except.bind]

end LinkedRaces.QueryParser
