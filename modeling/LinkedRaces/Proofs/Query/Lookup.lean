import LinkedRaces.Proofs.Graph.NTriples
import LinkedRaces.Proofs.Query.Parser.Forms
import LinkedRaces.Proofs.Query.Pattern
import LinkedRaces.Query.Execution

/-!
A line of N-Triples asked back. The line is read as the pattern of its triple, and the store has a
solution for it just when it has the triple.
-/

namespace LinkedRaces

namespace Store

def question (line : String) : String := "ASK \x7b " ++ line ++ "\x7d"

theorem lexes_question {t : Triple} (h : NTriples.Readable t) :
    LexesOutside (question (t.display ++ "\n")).toList
      (.word "ASK" :: .mark .openBrace :: (NTriples.tokens t ++ [.mark .closeBrace])) := by
  have hword : LexesOutside ['A', 'S', 'K'] [.word "ASK"] :=
    .of_lexes (fun x _ => lexes_word (by decide) x) (by simp) (by simp)
  have hopen := LexesOutside.mark .openBrace (by decide) (by decide)
  have hclose := LexesOutside.mark .closeBrace (by decide) (by decide)
  have hline := (NTriples.lexes_line h).spaced (show Text.isBlank '\n' by decide) hclose
  have hblank : Text.isBlank ' ' := by decide
  simpa [question, Mark.text] using hword.spaced hblank (hopen.spaced hblank hline)

end Store

namespace QueryParser

open Words (tokens)

def lookup (t : Triple) : Group := { Group.empty with required := [t.pattern] }

theorem tokens_lookup (t : Triple) :
    tokens (lookup t).words = .mark .openBrace :: (NTriples.tokens t ++ [.mark .closeBrace]) := by
  simp [lookup, Group.words, Group.empty, Words.braces, TriplePattern.words, Triple.pattern,
    Word.tokens, NTriples.tokens, Term.tokens]

theorem query_question (ns : Namespaces) (hbase : ns.base = none) (maxLimit : Nat) {t : Triple}
    (h : NTriples.Readable t) {ls : Tokens}
    (hls : ls.map Located.token =
      .word "ASK" :: .mark .openBrace :: (NTriples.tokens t ++ [.mark .closeBrace])) :
    query ns maxLimit ls = .ok ⟨.ask, lookup t, .ofLimit maxLimit, ns⟩ := by
  obtain ⟨-, -, ho⟩ := Triple.check_eq_ok_iff.1 h.1
  have hpattern : t.pattern.Grammatical := Triple.grammatical_pattern (Term.isVar_of_check ho)
  have hgrammatical : (lookup t).Grammatical :=
    ⟨by simpa [lookup] using hpattern, List.forall_mem_nil _, List.forall_mem_nil _⟩
  obtain ⟨⟨_, text⟩, lg, rfl, rfl, hlg⟩ := List.map_eq_cons_iff.1 hls
  rw [← tokens_lookup] at hlg
  have hgroup := groupThen_words hbase hgrammatical hlg [] fun g => (QueryForm.ask, g, false)
  rw [List.append_nil] at hgroup
  have hskip : skipKeyword "WHERE" lg = lg := by
    rw [tokens_lookup] at hlg
    obtain ⟨⟨_, brace⟩, lg, rfl, rfl, -⟩ := List.map_eq_cons_iff.1 hlg
    rfl
  have hprologue :
      prologue ns (⟨.word "ASK", text⟩ :: lg) = .ok (ns, ⟨.word "ASK", text⟩ :: lg) := by
    rw [prologue]
    rfl
  have hkeyword : formKeyword? (.word "ASK") = some .ask := by rfl
  have hform : form ns (⟨.word "ASK", text⟩ :: lg) = .ok ((.ask, lookup t, false), []) := by
    simp only [form, hkeyword, hskip, hgroup]
  simp only [query, hprologue, hform, modifiers_nil, finish, bind, Except.bind]
  rfl

end QueryParser

namespace Store

open QueryParser (lookup)

theorem solve_lookup (s : Store) {t : Triple} (h : t.object.isVar = false) :
    s.solve (lookup t) = List.replicate (s.triples.count t) .empty := by
  rw [solve_eq, lookup, joinAll_cons, joinAll, join, List.flatMap_singleton, extend_pattern s h]
  simp [Group.empty, passesAll]

/-- A triple that was written is found in a store just when it is stored, whatever the store. -/
theorem query_line (s : Store) {t : Triple} (hcheck : t.check = .ok ())
    (htag : t.object.TagLegible) :
    ∃ line, NTriples.line t = .ok line ∧
      s.query (question line) = .ok (.boolean (s.contains t)) := by
  have hvar := Term.isVar_of_check (Triple.check_eq_ok_iff.1 hcheck).2.2
  have hline : NTriples.line t = .ok (t.display ++ "\n") := by
    simp [NTriples.line, hcheck, bind, Except.bind, pure, Except.pure]
  refine ⟨t.display ++ "\n", hline, ?_⟩
  obtain ⟨ls, htokenize, hls⟩ := tokenize_of_lexesOutside (lexes_question ⟨hcheck, htag⟩)
  have hquery := QueryParser.query_question .wellKnown rfl defaultLimit ⟨hcheck, htag⟩ hls
  have hfound : (!(s.solve (lookup t)).isEmpty) = s.contains t := by
    rw [solve_lookup s hvar, Bool.eq_iff_iff, contains_iff_count_pos]
    simp [Nat.pos_iff_ne_zero]
  simp only [query, Query.parse, Query.parseWith, htokenize, hquery, bind, Except.bind, pure,
    Except.pure, Query.execute, hfound]

open NTriples (greeting) in
theorem query_line_greeting :
    (greeting.check = .ok () ∧ greeting.object.TagLegible) ∧
      ∃ line, NTriples.line greeting = .ok line ∧
        query ⟨[greeting]⟩ (question line) = .ok (.boolean true) ∧
        query .empty (question line) = .ok (.boolean false) := by
  have hcheck : greeting.check = .ok () := by rfl
  have htag : greeting.object.TagLegible := by
    rintro tag ⟨⟩
    decide +kernel
  obtain ⟨line, hline, hfound⟩ := query_line ⟨[greeting]⟩ hcheck htag
  obtain ⟨line', hline', hmissing⟩ := query_line .empty hcheck htag
  obtain rfl : line = line' := Except.ok.inj (hline.symm.trans hline')
  have hstored : contains ⟨[greeting]⟩ greeting = true := by decide +kernel
  have hempty : contains .empty greeting = false := by decide
  exact ⟨⟨hcheck, htag⟩, line, hline, by rw [hfound, hstored], by rw [hmissing, hempty]⟩

end Store

end LinkedRaces
