import LinkedRaces.Proofs.Query.Parser.Filters
import LinkedRaces.Query.Parser.Groups

/-! Patterns, groups and templates, read back from the tokens of their words, part by part. -/

namespace LinkedRaces.QueryParser

open Words (tokens)

variable {t : Namespaces} {ts us : List Token} {e : Expression}

theorem exists_tokens_cons (o : Term) :
    ∃ tok us, o.tokens Iri.token = tok :: us ∧ ∀ m, tok ≠ .mark m := by
  cases o with
  | iri i => exact ⟨_, _, rfl, nofun⟩
  | literal l => exact ⟨_, _, rfl, nofun⟩
  | var name => exact ⟨_, _, rfl, nofun⟩

theorem rejectPath_cons {tok : Token} (h : ∀ m, tok ≠ .mark m) (text : List Char) (rest : Tokens) :
    rejectPath (⟨tok, text⟩ :: rest) = .ok () := by
  cases tok with
  | mark m => exact absurd rfl (h m)
  | _ => rfl

theorem takes_predicateObjects (ht : t.base = none) {p : TriplePattern} (h : p.Grammatical) :
    Takes (predicateObjects t p.subject)
      (p.predicate.tokens Iri.token ++ p.object.tokens Iri.token) [p]
      fun rest => NextIsNot ExtendsLiteral rest ∧ NextIsNot (· = .mark .comma) rest := by
  intro ls rest hls hrest
  obtain ⟨lp, lo, rfl, hlp, hlo⟩ := List.map_eq_append_iff.1 hls
  obtain ⟨hltp, hreadp⟩ := takes_predicate ht h.predicate lp (lo ++ rest) hlp trivial
  obtain ⟨hlto, hreado⟩ := Tokens.takes_commaSeparated_one (takes_object ht p.object) lo rest hlo hrest
  have hpath : rejectPath (lo ++ rest) = .ok () := by
    obtain ⟨tok, us, hcons, hmark⟩ := exists_tokens_cons p.object
    rw [hcons] at hlo
    obtain ⟨⟨_, text⟩, lo, rfl, rfl, -⟩ := List.map_eq_cons_iff.1 hlo
    exact rejectPath_cons hmark text (lo ++ rest)
  rw [List.append_assoc]
  refine ⟨by omega, ?_⟩
  simp only [predicateObjects, hreadp, bind, Except.bind, hpath, hreado]
  rfl

theorem takes_statement (ht : t.base = none) {p : TriplePattern} (h : p.Grammatical) :
    Takes (statement t) (tokens p.words) [p] Anything := by
  intro ls rest hls _
  simp only [TriplePattern.words, Words.tokens_cons, Words.tokens_nil, Word.tokens,
    List.append_nil] at hls
  obtain ⟨l₁, l₂, rfl, h₁, h₂⟩ := List.map_eq_append_iff.1 hls
  rw [← List.append_assoc] at h₂
  obtain ⟨l₃, ld, rfl, h₃, hd⟩ := List.map_eq_append_iff.1 h₂
  obtain ⟨⟨_, text⟩, rfl, rfl⟩ := List.map_eq_singleton_iff.1 hd
  obtain ⟨hlt₁, hread₁⟩ := takes_subject ht h.subject l₁ (l₃ ++ (⟨.mark .dot, text⟩ :: rest)) h₁
    trivial
  obtain ⟨hlt₃, hread₃⟩ := Tokens.takes_semicolonSeparated_one atStatementEnd
    (takes_predicateObjects ht h) l₃ (⟨.mark .dot, text⟩ :: rest) h₃
    ⟨⟨nextIsNot_cons (not_extendsLiteral_mark (by decide)) _, nextIsNot_cons (by simp) _⟩,
      nextIsNot_cons (by simp) _⟩
  rw [List.append_assoc, List.append_assoc, List.singleton_append]
  refine ⟨by simp at hlt₁ hlt₃ ⊢; omega, ?_⟩
  simp only [statement, hread₁, bind, Except.bind, predicates, hread₃]
  rfl

/-- A pattern starts with a name, so that no other part of a group starts like it. -/
theorem words_pattern (p : TriplePattern) (h : p.Grammatical) :
    ∃ tok us, tokens p.words = tok :: us ∧ partStart tok = .triples := by
  have hsubject := h.subject
  cases hs : p.subject with
  | iri i => exact ⟨.iri i.text, _, by simp [TriplePattern.words, Word.tokens, hs]; rfl, rfl⟩
  | literal l => simp [hs, Term.isLiteral] at hsubject
  | var name => exact ⟨.var name, _, by simp [TriplePattern.words, Word.tokens, hs]; rfl, rfl⟩

variable {nested : Bool} {g inner : Group}

theorem takes_groupEnd (t : Namespaces) (nested : Bool) :
    Takes (parts t nested) [.mark .closeBrace] .empty Anything :=
  .single fun text rest _ => by
    rw [parts]
    rfl

theorem takes_pattern (ht : t.base = none) {p : TriplePattern} (h : p.Grammatical)
    (hg : Takes (parts t nested) ts g Anything) :
    Takes (parts t nested) (tokens p.words ++ ts) { g with required := p :: g.required }
      Anything := by
  intro ls rest hls _
  obtain ⟨lp, lg, rfl, hlp, hlg⟩ := List.map_eq_append_iff.1 hls
  obtain ⟨hltp, hreadp⟩ := takes_statement ht h lp (lg ++ rest) hlp trivial
  obtain ⟨hltg, hreadg⟩ := hg lg rest hlg trivial
  obtain ⟨tok, us, hwords, hstart⟩ := words_pattern p h
  rw [hwords] at hlp
  obtain ⟨⟨_, text⟩, lp, rfl, rfl, -⟩ := List.map_eq_cons_iff.1 hlp
  rw [List.append_assoc, List.cons_append]
  refine ⟨by simp at hltp ⊢; omega, ?_⟩
  simp only [List.cons_append] at hreadp
  rw [parts]
  simp only [hstart, hreadp, bind, Except.bind, hreadg]
  rfl

theorem takes_filter (he : Takes (disjunction t) us e (NextMark afterExpression))
    (hg : Takes (parts t nested) ts g Anything) :
    Takes (parts t nested)
      (.word "FILTER" :: .mark .openParen :: (us ++ .mark .closeParen :: ts))
      { g with filters := e :: g.filters } Anything := by
  intro ls rest hls _
  obtain ⟨⟨_, text⟩, lp, rfl, rfl, hlp⟩ := List.map_eq_cons_iff.1 hls
  obtain ⟨⟨_, paren⟩, le, rfl, rfl, hle⟩ := List.map_eq_cons_iff.1 hlp
  obtain ⟨lu, lc, rfl, hlu, hlc⟩ := List.map_eq_append_iff.1 hle
  obtain ⟨⟨_, close⟩, lg, rfl, rfl, hlg⟩ := List.map_eq_cons_iff.1 hlc
  obtain ⟨hlte, hreade⟩ := he lu (⟨.mark .closeParen, close⟩ :: (lg ++ rest)) hlu
    (nextMark_cons (by decide) _ _)
  obtain ⟨hltg, hreadg⟩ := hg lg rest hlg trivial
  rw [List.cons_append, List.cons_append, List.append_assoc, List.cons_append]
  refine ⟨by simp at hlte ⊢; omega, ?_⟩
  have hconstraint : constraint t (⟨.mark .openParen, paren⟩ ::
      (lu ++ ⟨.mark .closeParen, close⟩ :: (lg ++ rest))) =
      .ok ⟨e, lg ++ rest, by simp; omega⟩ := by
    simp only [constraint, bind, Except.bind, hreade]
    rfl
  rw [parts]
  simp only [show partStart (.word "FILTER") = .filter by decide, hconstraint, bind, Except.bind,
    hreadg]
  rfl

theorem takes_optional (hinner : Takes (parts t true) us inner Anything)
    (hg : Takes (parts t false) ts g Anything) :
    Takes (parts t false) (.word "OPTIONAL" :: .mark .openBrace :: (us ++ ts))
      { g with optionals := ⟨inner.required, inner.filters⟩ :: g.optionals } Anything := by
  intro ls rest hls _
  obtain ⟨⟨_, text⟩, lp, rfl, rfl, hlp⟩ := List.map_eq_cons_iff.1 hls
  obtain ⟨⟨_, brace⟩, lb, rfl, rfl, hlb⟩ := List.map_eq_cons_iff.1 hlp
  obtain ⟨lu, lg, rfl, hlu, hlg⟩ := List.map_eq_append_iff.1 hlb
  obtain ⟨hltu, hreadu⟩ := hinner lu (lg ++ rest) hlu trivial
  obtain ⟨hltg, hreadg⟩ := hg lg rest hlg trivial
  rw [List.cons_append, List.cons_append, List.append_assoc]
  refine ⟨by grind, ?_⟩
  have hbrace : mark .openBrace .groupStart (⟨.mark .openBrace, brace⟩ :: (lu ++ (lg ++ rest))) =
      .ok (.stay () (lu ++ (lg ++ rest))) := by simp [mark, Tokens.mark, Tokens.took]
  rw [parts]
  simp only [show partStart (.word "OPTIONAL") = .optional by decide, Bool.false_eq_true, if_false,
    hbrace, bind, Except.bind, Reading.stay, hreadu, hreadg]
  rfl

theorem takes_patterns (ht : t.base = none) {ps : List TriplePattern}
    (h : ∀ p ∈ ps, p.Grammatical) (hg : Takes (parts t nested) ts g Anything) :
    Takes (parts t nested) (tokens (ps.flatMap TriplePattern.words) ++ ts)
      { g with required := ps ++ g.required } Anything := by
  induction ps with
  | nil => exact hg
  | cons p ps ih =>
    obtain ⟨hp, hps⟩ := List.forall_mem_cons.1 h
    rw [List.flatMap_cons, Words.tokens_append, List.append_assoc]
    exact takes_pattern ht hp (ih hps)

theorem takes_filters (ht : t.base = none) {es : List Expression} (h : ∀ e ∈ es, e.Grammatical)
    (hg : Takes (parts t nested) ts g Anything) :
    Takes (parts t nested) (tokens (es.flatMap filterWords) ++ ts)
      { g with filters := es ++ g.filters } Anything := by
  induction es with
  | nil => exact hg
  | cons e es ih =>
    obtain ⟨he, hes⟩ := List.forall_mem_cons.1 h
    have hfilter := takes_filter (readsBack ht he).whole (ih hes)
    simpa [filterWords, tokens_parens, Word.tokens] using hfilter

theorem takes_blockParts (ht : t.base = none) {b : Block} (h : b.Grammatical) :
    Takes (parts t true)
      (tokens (b.required.flatMap TriplePattern.words) ++
        (tokens (b.filters.flatMap filterWords) ++ [.mark .closeBrace]))
      ⟨b.required, [], b.filters⟩ Anything := by
  have hparts := takes_patterns ht h.required
    (takes_filters ht h.filters (takes_groupEnd t true))
  simpa [Group.empty] using hparts

theorem takes_optionals (ht : t.base = none) {bs : List Block} (h : ∀ b ∈ bs, b.Grammatical)
    (hg : Takes (parts t false) ts g Anything) :
    Takes (parts t false) (tokens (bs.flatMap Block.words) ++ ts)
      { g with optionals := bs ++ g.optionals } Anything := by
  induction bs with
  | nil => exact hg
  | cons b bs ih =>
    obtain ⟨hb, hbs⟩ := List.forall_mem_cons.1 h
    have hblock := takes_optional (takes_blockParts ht hb) (ih hbs)
    simpa [Block.words, Words.braces, Word.tokens] using hblock

theorem takes_group (ht : t.base = none) (h : g.Grammatical) :
    Takes (group t) (tokens g.words) g Anything := by
  have hparts := takes_patterns ht h.required (takes_optionals ht h.optionals
    (takes_filters ht h.filters (takes_groupEnd t false)))
  intro ls rest hls _
  simp only [Group.words, Words.braces, Words.tokens_cons, Words.tokens_append, Words.tokens_nil,
    Word.tokens, List.append_nil, List.append_assoc, List.singleton_append] at hls
  obtain ⟨⟨_, brace⟩, lp, rfl, rfl, hlp⟩ := List.map_eq_cons_iff.1 hls
  obtain ⟨hlt, hread⟩ := hparts lp rest hlp trivial
  rw [List.cons_append]
  refine ⟨by grind, ?_⟩
  simp only [group, mark, Tokens.mark, if_true, Tokens.took, Reading.stay, bind, Except.bind, hread]
  simp [Reading.andThen, Reading.followedBy, Reading.loosen, Reading.weaken, Group.empty, pure,
    Except.pure]

theorem takes_templateEnd : Takes (templateParts t) [.mark .closeBrace] [] Anything :=
  .single fun text rest _ => by simp [templateParts]

theorem takes_templateParts (ht : t.base = none) {ps : List TriplePattern}
    (h : ∀ p ∈ ps, p.Grammatical) :
    Takes (templateParts t)
      (tokens (ps.flatMap TriplePattern.words) ++ [.mark .closeBrace]) ps Anything := by
  induction ps with
  | nil => exact takes_templateEnd
  | cons p ps ih =>
    obtain ⟨hp, hps⟩ := List.forall_mem_cons.1 h
    intro ls rest hls _
    rw [List.flatMap_cons, Words.tokens_append, List.append_assoc] at hls
    obtain ⟨lp, lr, rfl, hlp, hlr⟩ := List.map_eq_append_iff.1 hls
    obtain ⟨hltp, hreadp⟩ := takes_statement ht hp lp (lr ++ rest) hlp trivial
    obtain ⟨hltr, hreadr⟩ := ih hps lr rest hlr trivial
    obtain ⟨tok, us, hwords, hstart⟩ := words_pattern p hp
    have hbrace : tok ≠ .mark .closeBrace := by
      rintro rfl
      cases hstart
    have hdot : tok ≠ .mark .dot := by
      rintro rfl
      cases hstart
    rw [hwords] at hlp
    obtain ⟨⟨_, text⟩, lp, rfl, rfl, -⟩ := List.map_eq_cons_iff.1 hlp
    rw [List.append_assoc, List.cons_append]
    refine ⟨by simp at hltp ⊢; omega, ?_⟩
    simp only [List.cons_append] at hreadp
    rw [templateParts]
    simp only [hbrace, hdot, if_false, hreadp, bind, Except.bind, hreadr]
    rfl

theorem takes_template (ht : t.base = none) {ps : List TriplePattern}
    (h : ∀ p ∈ ps, p.Grammatical) :
    Takes (template t) (tokens (Words.braces (ps.flatMap TriplePattern.words))) ps Anything := by
  intro ls rest hls _
  simp only [Words.braces, Words.tokens_cons, Words.tokens_append, Words.tokens_nil, Word.tokens,
    List.append_nil, List.singleton_append] at hls
  obtain ⟨⟨_, brace⟩, lp, rfl, rfl, hlp⟩ := List.map_eq_cons_iff.1 hls
  obtain ⟨hlt, hread⟩ := takes_templateParts ht h lp rest hlp trivial
  rw [List.cons_append]
  refine ⟨by grind, ?_⟩
  simp only [template, mark, Tokens.mark, if_true, Tokens.took, Reading.stay, bind, Except.bind,
    hread]
  rfl

end LinkedRaces.QueryParser
