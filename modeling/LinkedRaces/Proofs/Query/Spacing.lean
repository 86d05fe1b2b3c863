import LinkedRaces.Proofs.Query.Lexing
import LinkedRaces.Proofs.Query.Parser.Forms
import LinkedRaces.Proofs.Query.Parser.Neighbours
import LinkedRaces.Proofs.Shorthand

/-!
White space in filters. A condition is read alike with any blanks between its tokens and with none,
but for one thing: behind a language tag or a word an angle bracket may be taken for the beginning
of a reference, and then the filter has no condition at all.
-/

namespace LinkedRaces.QueryParser

variable {t : Namespaces} {us : List Token} {e : Expression}

theorem parts_filter (text : List Char) (rest : Tokens) :
    parts t false (⟨.word "FILTER", text⟩ :: rest) =
      (do
        let e ← constraint t rest
        let r ← parts t false e.rest
        let r := r.map fun g => { g with filters := e.value :: g.filters }
        return (e.andThen r).loosen) := by
  rw [parts]
  simp only [show partStart (.word "FILTER") = .filter by decide]

theorem query_selectAll (n : Nat) (a b c d : List Char) (rest : Tokens) :
    query t n (⟨.word "SELECT", a⟩ :: ⟨.mark .star, b⟩ :: ⟨.word "WHERE", c⟩ ::
        ⟨.mark .openBrace, d⟩ :: rest) =
      (do
        let g ← parts t false rest
        let (m, rest) ← modifiers n (Modifiers.ofLimit n) g.rest
        finish rest
        .ok ⟨.select .all, g.value, m, t⟩) := by
  have hprologue (rest : Tokens) : prologue t (⟨.word "SELECT", a⟩ :: rest) =
      .ok (t, ⟨.word "SELECT", a⟩ :: rest) := by
    rw [prologue]
    rfl
  have hform : formKeyword? (.word "SELECT") = some .select := by rfl
  have hdistinct (rest : Tokens) : distinctness (⟨.mark .star, b⟩ :: rest) =
      (false, ⟨.mark .star, b⟩ :: rest) := rfl
  have hgroup (f : Group → QueryForm × Group) : groupThen t (⟨.mark .openBrace, d⟩ :: rest) f =
      (parts t false rest).map fun g => (f g.value, g.rest) := by
    simp only [groupThen, group, mark, Tokens.mark, if_true, Tokens.took, Reading.stay, bind,
      Except.bind]
    cases parts t false rest <;> rfl
  simp only [query, hprologue, form, hform, hdistinct, selectForm, projection, bind, Except.bind,
    rejectDataset_where, skipKeyword_where, hgroup]
  cases parts t false rest <;> rfl

def filterTokens : List Token :=
  [.word "SELECT", .mark .star, .word "WHERE", .mark .openBrace, .word "FILTER"]

theorem map_eq_filterTokens {ls : Tokens} {ts : List Token}
    (h : ls.map Located.token = filterTokens ++ ts) :
    ∃ a b c d f rest, ls = ⟨.word "SELECT", a⟩ :: ⟨.mark .star, b⟩ :: ⟨.word "WHERE", c⟩ ::
      ⟨.mark .openBrace, d⟩ :: ⟨.word "FILTER", f⟩ :: rest ∧ rest.map Located.token = ts := by
  obtain ⟨⟨_, a⟩, ls, rfl, rfl, h₁⟩ := List.map_eq_cons_iff.1 h
  obtain ⟨⟨_, b⟩, ls, rfl, rfl, h₂⟩ := List.map_eq_cons_iff.1 h₁
  obtain ⟨⟨_, c⟩, ls, rfl, rfl, h₃⟩ := List.map_eq_cons_iff.1 h₂
  obtain ⟨⟨_, d⟩, ls, rfl, rfl, h₄⟩ := List.map_eq_cons_iff.1 h₃
  obtain ⟨⟨_, f⟩, rest, rfl, rfl, h₅⟩ := List.map_eq_cons_iff.1 h₄
  exact ⟨a, b, c, d, f, rest, rfl, h₅⟩

theorem query_of_reads (h : Reads t .disjunction us e) (n : Nat) {ls : Tokens}
    (hls : ls.map Located.token = filterTokens ++ (parens us ++ [.mark .closeBrace])) :
    query t n ls = .ok ⟨.select .all, ⟨[], [], [e]⟩, .ofLimit n, t⟩ := by
  obtain ⟨a, b, c, d, f, rest, rfl, hrest⟩ := map_eq_filterTokens hls
  have hparts := takes_filter (takes_of_reads h) (takes_groupEnd t false)
  have hfilter : (⟨.word "FILTER", f⟩ :: rest : Tokens).map Located.token =
      .word "FILTER" :: .mark .openParen :: (us ++ .mark .closeParen :: [.mark .closeBrace]) := by
    simp [hrest, parens]
  have hread := hparts _ [] hfilter trivial
  rw [List.append_nil] at hread
  obtain ⟨hlt, hread⟩ := hread
  rw [query_selectAll, hread]
  simp only [bind, Except.bind, modifiers_nil]
  rfl

theorem exists_reads_of_query {n : Nat} {ls : Tokens} {ts : List Token} {q : Query}
    (hls : ls.map Located.token = filterTokens ++ ts) (hq : query t n ls = .ok q) :
    ∃ vs e, vs <+: ts ∧ Reads t .operand vs e := by
  obtain ⟨a, b, c, d, f, rest, rfl, rfl⟩ := map_eq_filterTokens hls
  rw [query_selectAll, parts_filter] at hq
  obtain ⟨g, hg, -⟩ := Scanner.bind_eq_ok.1 hq
  obtain ⟨r, hr, -⟩ := Scanner.bind_eq_ok.1 hg
  obtain ⟨used, hrest, hreads⟩ := covers_constraint t rest r hr
  have hprefix := congrArg (List.map Located.token) hrest
  rw [List.map_append] at hprefix
  exact ⟨_, _, ⟨_, hprefix.symm⟩, hreads⟩

end LinkedRaces.QueryParser

namespace LinkedRaces

open QueryParser

/-- A query of which all that matters is the condition of its filter, in that layout. -/
def Layout.filterText (L : Layout) : String :=
  "SELECT * WHERE \x7b FILTER" ++ String.ofList L.text ++ " \x7d"

variable {t : Namespaces} {us : List Token} {e : Expression} {L : Layout}

theorem kinds_filterText {r : List Char}
    (hr : ∀ c ∈ r.head?, Scanner.isWordChar c = false ∧ c ≠ ':') :
    Tokenizer.kinds .start ("SELECT * WHERE \x7b FILTER".toList ++ r) =
      (Tokenizer.kinds ⟨0, false⟩ r).map (filterTokens ++ ·) := by
  let ws : List Word := [.name "SELECT", .mark .star, .name "WHERE", .mark .openBrace]
  have htext : "SELECT * WHERE \x7b FILTER".toList =
      (Words.text ws).toList ++ ' ' :: "FILTER".toList := by decide
  have hselect : Scanner.isBareWord "SELECT".toList := by decide
  have hwhere : Scanner.isBareWord "WHERE".toList := by decide
  have hfilter : Scanner.isBareWord "FILTER".toList := by decide
  have hfit : Words.Fit .start ws := ⟨hselect, trivial, hwhere, trivial, trivial⟩
  have hlexes := Words.lexes_text hfit
  have hcontext : (Context.start.through (Words.tokens ws)).next (.word "FILTER") = ⟨0, false⟩ := rfl
  rw [htext, List.append_assoc, List.cons_append,
    hlexes _ (separated_cons (show Text.isBlank ' ' by decide) _), Tokenizer.kinds_blank (by decide),
    kinds_word hfilter hr, String.ofList_toList, hcontext]
  cases Tokenizer.kinds ⟨0, false⟩ r <;> rfl

theorem separated_text_spaced (L : Layout) : Separated L.spaced.text := by
  cases L with
  | nil => exact separated_nil
  | cons a L => exact separated_cons (by decide) _

theorem lured_spaced (L : Layout) : L.spaced.lured = false := by
  have hhere (a b : Placed) (L : Layout) : Layout.luredHere a.spaced b.spaced L.spaced = false := by
    cases hangle : b.token.isAngle with
    | false => simp [Layout.luredHere, Placed.spaced, hangle]
    | true =>
      have hmore : Scanner.reference? b.more = none := by
        have hreads := b.reads
        unfold Token.isAngle at hangle
        split at hangle
        next hless =>
          obtain ⟨-, hmore⟩ := List.cons.inj (Scanner.text_of_mark (hless ▸ hreads))
          rw [hmore]
          rfl
        next hatMost =>
          obtain ⟨-, hmore⟩ := List.cons.inj (Scanner.text_of_mark (hatMost ▸ hreads))
          rw [hmore]
          rfl
        next => cases hangle
      have hnone := Scanner.reference?_append_separated b.more (separated_text_spaced L)
      rw [hmore] at hnone
      simp [Layout.luredHere, Placed.spaced, hnone]
  induction L with
  | nil => rfl
  | cons a L ih =>
    cases L with
    | nil => rfl
    | cons b L => exact Bool.or_eq_false_iff.2 ⟨hhere a b L, ih⟩

theorem kinds_closeBrace : Tokenizer.kinds ⟨0, true⟩ " \x7d".toList = .ok [.mark .closeBrace] :=
  ((lexes_mark ⟨0, true⟩ .closeBrace).blank (show Text.isBlank ' ' by decide)).kinds_eq

theorem kinds_layout (hL : L.tokens = parens us) :
    Tokenizer.kinds .start L.filterText.toList =
      (Tokenizer.kinds ⟨0, false⟩ (L.text ++ " \x7d".toList)).map (filterTokens ++ ·) := by
  have hhead : ∀ c ∈ (L.text ++ " \x7d".toList).head?,
      Scanner.isWordChar c = false ∧ c ≠ ':' := by
    obtain ⟨a, L, rfl, ha, -⟩ := List.map_eq_cons_iff.1 hL
    have hreads := a.reads
    rw [ha] at hreads
    have hfirst : a.first = '(' := (List.cons.inj (Scanner.text_of_mark hreads)).1
    have hends := a.ends_text (by rw [hfirst]; decide) (Layout.text L ++ " \x7d".toList)
    rw [Layout.text_cons, List.append_assoc]
    refine fun c hc => ⟨hends.not Scanner.isWordChar_of_isEnd c hc, ?_⟩
    rintro rfl
    exact hends.ne (by decide) hc
  have htoList (a b : String) (cs : List Char) :
      (a ++ String.ofList cs ++ b).toList = a.toList ++ (cs ++ b.toList) := by simp
  exact (congrArg (Tokenizer.kinds .start) (htoList _ _ _)).trans (kinds_filterText hhead)

theorem separated_closeBrace : Separated " \x7d".toList := separated_cons (by decide) _

namespace Query

def ofFilter (t : Namespaces) (n : Nat) (e : Expression) : Query :=
  ⟨.select .all, ⟨[], [], [e]⟩, .ofLimit n, t⟩

theorem parseWith_of_not_lured (h : Reads t .disjunction us e) (hL : L.tokens = parens us)
    (hlured : L.lured = false) (n : Nat) :
    parseWith t n L.filterText = .ok (ofFilter t n e) := by
  have hkinds : Tokenizer.kinds .start L.filterText.toList =
      .ok (filterTokens ++ (parens us ++ [.mark .closeBrace])) := by
    rw [kinds_layout hL, kinds_parens hL (runsThrough_of_reads h) separated_closeBrace hlured,
      kinds_closeBrace]
    rfl
  obtain ⟨ls, htokens, hls⟩ := Tokenizer.kinds_start_eq_ok.1 hkinds
  rw [parseWith, htokens]
  exact query_of_reads h n hls

theorem parseWith_of_lured (h : Reads t .disjunction us e) (hL : L.tokens = parens us)
    (hlured : L.lured) (n : Nat) (q : Query) : parseWith t n L.filterText ≠ .ok q := by
  intro hq
  unfold parseWith at hq
  split at hq
  next => cases hq
  next ls htokens =>
    have hkinds := Tokenizer.kinds_start_eq_ok.2 ⟨ls, htokens, rfl⟩
    rw [kinds_layout hL] at hkinds
    cases hinner : Tokenizer.kinds ⟨0, false⟩ (L.text ++ " \x7d".toList) with
    | error e =>
      rw [hinner] at hkinds
      cases hkinds
    | ok ts =>
      rw [hinner] at hkinds
      have hls : ls.map Located.token = filterTokens ++ ts := (Except.ok.inj hkinds).symm
      obtain ⟨vs, e', hvs, hreads⟩ := exists_reads_of_query hls hq
      exact not_reads_of_lured hL (runsThrough_of_reads h) separated_closeBrace hlured hinner hvs
        hreads

/-- What a query is read to depends on its tokens alone, not on where they stand. -/
theorem query_congr {n : Nat} {ls ls' : Tokens}
    (h : ls'.map Located.token = ls.map Located.token) {q : Query} (hq : query t n ls = .ok q) :
    query t n ls' = .ok q := by
  let one : Numeral := ⟨[], ['1'], [], [], .inl rfl, List.forall_mem_singleton.2 (by decide), .inl rfl,
    .inl rfl, .inl nofun⟩
  have hwhole : ¬ one.Splits .start := fun h => h.1 rfl
  rcases follows_query t n (.behind hwhole h) q hq with ⟨q', hq', -, rfl⟩ | ⟨hsplits, -⟩
  · exact hq'
  · exact absurd hsplits hwhole

theorem parseWith_congr {n : Nat} {a b : String}
    (h : Tokenizer.kinds .start a.toList = Tokenizer.kinds .start b.toList) {q : Query}
    (hq : parseWith t n a = .ok q) : parseWith t n b = .ok q := by
  unfold parseWith at hq ⊢
  split at hq
  next => cases hq
  next ls htokens =>
    have hkinds := h.symm.trans (Tokenizer.kinds_start_eq_ok.2 ⟨ls, htokens, rfl⟩)
    obtain ⟨ls', htokens', hls⟩ := Tokenizer.kinds_start_eq_ok.1 hkinds
    rw [htokens']
    exact query_congr hls hq

/-- A place for the condition in the text of a query, outside of all parentheses: what stands before
it is read alike in front of either layout. -/
structure Site (L : Layout) where
  before : List Char
  after : List Char
  tokens : List Token
  given : EndsAt before tokens (L.text ++ after)
  spaced : EndsAt before tokens (L.spaced.text ++ after)
  outside : (Context.start.through tokens).depth = 0
  ends : Separated after

def Site.text (p : Site L) (M : Layout) : String := String.ofList (p.before ++ (M.text ++ p.after))

theorem parseWith_site (h : Reads t .disjunction us e) (hL : L.tokens = parens us)
    (hlured : L.lured = false) (p : Site L) (n : Nat) (q : Query) :
    parseWith t n (p.text L) = .ok q ↔ parseWith t n (p.text L.spaced) = .ok q := by
  have hcontext : Context.start.through p.tokens =
      ⟨0, (Context.start.through p.tokens).afterValue⟩ := by rw [← p.outside]
  have hkinds {M : Layout} (hM : M.tokens = parens us) (hlured : M.lured = false)
      (hends : EndsAt p.before p.tokens (M.text ++ p.after)) :
      Tokenizer.kinds .start (p.text M).toList =
        ((Tokenizer.kinds ⟨0, true⟩ p.after).map (parens us ++ ·)).map (p.tokens ++ ·) := by
    rw [Site.text, String.toList_ofList, hends, hcontext,
      kinds_parens hM (runsThrough_of_reads h) p.ends hlured]
  have hgiven := hkinds hL hlured p.given
  have hspaced := hkinds ((Layout.tokens_spaced L).trans hL) (lured_spaced L) p.spaced
  exact ⟨parseWith_congr (hgiven.trans hspaced.symm), parseWith_congr (hspaced.trans hgiven.symm)⟩

/-- White space in a filter. A condition with a space before each token is read as that condition.
With any other blanks between the tokens, or with none, it is read as the same condition exactly if
no bracket of a comparison behind a language tag or a word is taken for that of a reference; else
the query has an error. So it is in every query with the condition: if no bracket is taken for that
of a reference, the query is read alike with either layout. -/
theorem parseWith_layout (h : Reads t .disjunction us e) (hL : L.tokens = parens us) (n : Nat) :
    parseWith t n L.spaced.filterText = .ok (ofFilter t n e) ∧
      (parseWith t n L.filterText = .ok (ofFilter t n e) ↔ L.lured = false) ∧
      (L.lured → ∃ fault, parseWith t n L.filterText = .error fault) ∧
      (L.lured = false → ∀ (p : Site L) (q : Query),
        parseWith t n (p.text L) = .ok q ↔ parseWith t n (p.text L.spaced) = .ok q) := by
  refine ⟨?_, ⟨fun hok => ?_, fun hlured => parseWith_of_not_lured h hL hlured n⟩, fun hlured => ?_,
    fun hlured p q => parseWith_site h hL hlured p n q⟩
  · exact parseWith_of_not_lured h ((Layout.tokens_spaced L).trans hL) (lured_spaced L) n
  · cases hlured : L.lured with
    | false => rfl
    | true => exact absurd hok (parseWith_of_lured h hL hlured n _)
  · cases hparse : parseWith t n L.filterText with
    | error fault => exact ⟨fault, rfl⟩
    | ok q => exact absurd hparse (parseWith_of_lured h hL hlured n q)

def compared (operand : List Lexeme) : Layout :=
  let start : Lexeme := ⟨'(', [], .mark .openParen, rfl⟩
  let rest : List Lexeme :=
    [⟨'<', [], .mark .less, rfl⟩, ⟨'?', ['x'], .var "x", by decide⟩,
      ⟨'&', ['&'], .mark .and, rfl⟩, ⟨'?', ['y'], .var "y", by decide⟩,
      ⟨'>', [], .mark .greater, rfl⟩, ⟨'"', ['b', '"'], .string "b", by decide +kernel⟩,
      ⟨')', [], .mark .closeParen, rfl⟩]
  (start :: operand ++ rest).map Lexeme.tight

def comparedTokens (operand : List Token) : List Token :=
  operand ++ .mark .less :: [.var "x"] ++ .mark .and :: [.var "y", .mark .greater, .string "b"]

theorem reads_compared {a : Expression} (h : Reads t .operand us a) :
    Reads t .disjunction (comparedTokens us)
      (.and (.compare .less a (.var "x"))
        (.compare .greater (.var "y") (.const (.literal (.plain "b"))))) :=
  .disjunct (.and (.conjunct (.plain (.compare .less h (.var "x"))))
    (.plain (.compare .greater (.var "y") (.literal (.plain "b")))))

theorem parseWith_compared_var :
    parseWith .wellKnown defaultLimit "SELECT * WHERE \x7b FILTER(?w<?x&&?y>\"b\") \x7d" =
      .ok (ofFilter .wellKnown defaultLimit (.and (.compare .less (.var "w") (.var "x"))
        (.compare .greater (.var "y") (.const (.literal (.plain "b")))))) := by
  let L := compared [⟨'?', ['w'], .var "w", by decide⟩]
  have hlayout := parseWith_layout (L := L) (reads_compared (t := .wellKnown) (.var "w")) rfl
    defaultLimit
  have htext : L.filterText = "SELECT * WHERE \x7b FILTER(?w<?x&&?y>\"b\") \x7d" := by decide
  rw [htext] at hlayout
  exact hlayout.2.1.2 (by decide)

/-- Behind a language tag the bracket opens a reference, so that there is no condition. -/
theorem parseWith_compared_tagged :
    parseWith .wellKnown defaultLimit
        "SELECT * WHERE \x7b FILTER ( \"a\" @en < ?x && ?y > \"b\" ) \x7d" =
      .ok (ofFilter .wellKnown defaultLimit
        (.and (.compare .less (.const (.literal (.tagged "a" "en"))) (.var "x"))
          (.compare .greater (.var "y") (.const (.literal (.plain "b")))))) ∧
    ∀ q, parseWith .wellKnown defaultLimit
      "SELECT * WHERE \x7b FILTER(\"a\"@en<?x&&?y>\"b\") \x7d" ≠ .ok q := by
  let L := compared [⟨'"', ['a', '"'], .string "a", by decide +kernel⟩,
    ⟨'@', ['e', 'n'], .tag "en", by decide⟩]
  have hreads := reads_compared (t := .wellKnown) (.literal (.tagged "a" "en"))
  have hspaced := parseWith_of_not_lured hreads (L := L.spaced) rfl (lured_spaced L) defaultLimit
  have htight := parseWith_of_lured hreads (L := L) rfl (by decide) defaultLimit
  have htext : L.spaced.filterText =
      "SELECT * WHERE \x7b FILTER ( \"a\" @en < ?x && ?y > \"b\" ) \x7d" := by decide
  have htext' : L.filterText = "SELECT * WHERE \x7b FILTER(\"a\"@en<?x&&?y>\"b\") \x7d" := by
    decide
  rw [htext] at hspaced
  rw [htext'] at htight
  exact ⟨hspaced, htight⟩

end Query

end LinkedRaces
