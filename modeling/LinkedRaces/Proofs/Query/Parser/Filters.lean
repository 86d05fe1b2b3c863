import LinkedRaces.Proofs.Query.Parser.Terms
import LinkedRaces.Proofs.Query.Rendering
import LinkedRaces.Query.Parser.Filters

/-!
The conditions of filters, read back from the tokens of their words. Operands are read wherever a
mark follows that does not extend a literal; each looser operator needs a mark behind it that ends
what it reads.
-/

namespace LinkedRaces.QueryParser

open Tokens (took)
open Words (tokens)

def NextMark (ms : List Mark) (rest : Tokens) : Prop :=
  ∃ m ∈ ms, ∃ text rest', rest = ⟨.mark m, text⟩ :: rest'

theorem NextMark.mono {ms ns : List Mark} (h : ∀ m ∈ ms, m ∈ ns) {rest : Tokens}
    (hr : NextMark ms rest) : NextMark ns rest := by
  obtain ⟨m, hm, hrest⟩ := hr
  exact ⟨m, h m hm, hrest⟩

theorem nextMark_cons {ms : List Mark} {m : Mark} (h : m ∈ ms) (text : List Char) (rest : Tokens) :
    NextMark ms (⟨.mark m, text⟩ :: rest) :=
  ⟨m, h, text, rest, rfl⟩

theorem NextMark.nextIsNot {ms : List Mark} {rest : Tokens} (hr : NextMark ms rest) {m : Mark}
    (hm : m ∉ ms) : NextIsNot (· = .mark m) rest := by
  obtain ⟨n, hn, text, rest', rfl⟩ := hr
  refine nextIsNot_cons ?_ rest'
  rintro ⟨⟩
  exact hm hn

def afterExpression : List Mark := [.closeParen, .comma]

def afterConjunction : List Mark := .or :: afterExpression

def afterRelation : List Mark := .and :: afterConjunction

theorem not_extendsLiteral_of_nextMark {ms : List Mark} (h : .doubleCaret ∉ ms) {rest : Tokens}
    (hr : NextMark ms rest) : NextIsNot ExtendsLiteral rest := by
  obtain ⟨m, hm, text, rest', rfl⟩ := hr
  refine nextIsNot_cons (not_extendsLiteral_mark ?_) rest'
  rintro rfl
  exact h hm

theorem mem_afterRelation {m : Mark} (h : m ∈ afterRelation) :
    m = .and ∨ m = .or ∨ m = .closeParen ∨ m = .comma := by
  simpa [afterRelation, afterConjunction, afterExpression] using h

theorem rejectArithmetic_of_nextMark {rest : Tokens} (hr : NextMark afterRelation rest) :
    rejectArithmetic rest = .ok () := by
  obtain ⟨m, hm, text, rest', rfl⟩ := hr
  rcases mem_afterRelation hm with rfl | rfl | rfl | rfl <;> rfl

variable {t : Namespaces} {ts us : List Token} {e a b : Expression}

theorem takes_relation (h : Takes (operand t) ts e (NextIsNot ExtendsLiteral)) :
    Takes (relation t) ts e (NextMark afterRelation) := by
  intro ls rest hls hrest
  obtain ⟨hlt, hread⟩ := h ls rest hls (not_extendsLiteral_of_nextMark (by decide) hrest)
  refine ⟨hlt, ?_⟩
  obtain ⟨m, hm, text, rest', rfl⟩ := hrest
  rw [relation, hread]
  rcases mem_afterRelation hm with rfl | rfl | rfl | rfl <;> rfl

theorem takes_compare (op : Comparison) (ha : Takes (operand t) ts a (NextIsNot ExtendsLiteral))
    (hb : Takes (operand t) us b (NextIsNot ExtendsLiteral)) :
    Takes (relation t) (ts ++ .mark op.mark :: us) (.compare op a b) (NextMark afterRelation) := by
  intro ls rest hls hrest
  obtain ⟨la, lm, rfl, hla, hlm⟩ := List.map_eq_append_iff.1 hls
  obtain ⟨⟨_, text⟩, lb, rfl, rfl, hlb⟩ := List.map_eq_cons_iff.1 hlm
  obtain ⟨hlta, hreada⟩ := ha la (⟨.mark op.mark, text⟩ :: (lb ++ rest)) hla
    (nextIsNot_cons (not_extendsLiteral_mark (by cases op <;> decide)) _)
  obtain ⟨hltb, hreadb⟩ := hb lb rest hlb (not_extendsLiteral_of_nextMark (by decide) hrest)
  rw [List.append_assoc, List.cons_append]
  refine ⟨by grind, ?_⟩
  have hcomparison : comparison? op.mark = some op := by cases op <;> rfl
  have hfirst : rejectArithmetic (⟨.mark op.mark, text⟩ :: (lb ++ rest)) = .ok () := by
    cases op <;> rfl
  rw [relation, hreada]
  simp only [bind, Except.bind, hfirst, hcomparison, hreadb, rejectArithmetic_of_nextMark hrest]

def NoBang (ts : List Token) : Prop := ∃ tok us, ts = tok :: us ∧ tok ≠ .mark .bang

theorem negation_of_nextIsNot {rest : Tokens} (h : NextIsNot (· = .mark .bang) rest) :
    negation t rest = relation t rest :=
  negation.eq_2 t rest fun text rest heq => h _ (by rw [heq]; rfl) rfl

theorem takes_negation {follow : Tokens → Prop} (h : Takes (relation t) ts e follow)
    (hhead : NoBang ts) : Takes (negation t) ts e follow := by
  intro ls rest hls hrest
  obtain ⟨hlt, hread⟩ := h ls rest hls hrest
  obtain ⟨tok, us, rfl, hne⟩ := hhead
  obtain ⟨⟨_, text⟩, ls, rfl, rfl, -⟩ := List.map_eq_cons_iff.1 hls
  simp only [List.cons_append] at hlt hread ⊢
  refine ⟨hlt, ?_⟩
  rw [negation_of_nextIsNot (nextIsNot_cons hne _)]
  exact hread

theorem takes_not {follow : Tokens → Prop} (h : Takes (negation t) ts e follow) :
    Takes (negation t) (.mark .bang :: ts) (.not e) follow := by
  intro ls rest hls hrest
  obtain ⟨⟨_, text⟩, le, rfl, rfl, hle⟩ := List.map_eq_cons_iff.1 hls
  obtain ⟨hlt, hread⟩ := h le rest hle hrest
  rw [List.cons_append]
  refine ⟨by grind, ?_⟩
  rw [negation]
  simp only [hread]
  rfl

/-- After the tokens the reader goes on as `more` does with the value. -/
def Leads (read : TokenReader QueryError Expression)
    (more : Expression → (ts : Tokens) →
      Except QueryError (Reading Located Expression (ts.length + 1)))
    (ts : List Token) (e : Expression) (follow : Tokens → Prop) : Prop :=
  ∀ ls rest : Tokens, ls.map Located.token = ts → follow rest →
    ∃ h : rest.length < (ls ++ rest).length,
      read (ls ++ rest) = (more e rest).map fun r => r.weaken h

theorem conjuncts_of_nextIsNot (left : Expression) {rest : Tokens}
    (h : NextIsNot (· = .mark .and) rest) : conjuncts t left rest = .ok (.stay left rest) := by
  rw [conjuncts.eq_2 t left rest fun text rest heq => h _ (by rw [heq]; rfl) rfl]
  rfl

theorem conjuncts_of_nextMark {rest : Tokens} (hr : NextMark afterConjunction rest)
    (left : Expression) : conjuncts t left rest = .ok (.stay left rest) :=
  conjuncts_of_nextIsNot left (hr.nextIsNot (by decide))

theorem leads_conjunct (h : Takes (negation t) ts e (NextMark afterRelation)) :
    Leads (conjunction t) (conjuncts t) ts e (NextMark afterRelation) := by
  intro ls rest hls hrest
  obtain ⟨hlt, hread⟩ := h ls rest hls hrest
  refine ⟨hlt, ?_⟩
  rw [conjunction, hread]
  rfl

theorem leads_and (ha : Leads (conjunction t) (conjuncts t) ts a (NextMark afterRelation))
    (hb : Takes (negation t) us b (NextMark afterRelation)) :
    Leads (conjunction t) (conjuncts t) (ts ++ .mark .and :: us) (.and a b)
      (NextMark afterRelation) := by
  intro ls rest hls hrest
  obtain ⟨la, lm, rfl, hla, hlm⟩ := List.map_eq_append_iff.1 hls
  obtain ⟨⟨_, text⟩, lb, rfl, rfl, hlb⟩ := List.map_eq_cons_iff.1 hlm
  obtain ⟨hlta, hreada⟩ := ha la (⟨.mark .and, text⟩ :: (lb ++ rest)) hla
    (nextMark_cons (by decide) _ _)
  obtain ⟨hltb, hreadb⟩ := hb lb rest hlb hrest
  rw [List.append_assoc, List.cons_append]
  refine ⟨by grind, ?_⟩
  rw [hreada, conjuncts]
  simp only [bind, Except.bind, hreadb]
  cases conjuncts t (.and a b) rest <;> rfl

theorem takes_conjuncts (h : Leads (conjunction t) (conjuncts t) ts e (NextMark afterRelation)) :
    Takes (conjunction t) ts e (NextMark afterConjunction) := by
  intro ls rest hls hrest
  obtain ⟨hlt, hread⟩ := h ls rest hls (hrest.mono (by decide))
  refine ⟨hlt, ?_⟩
  rw [hread, conjuncts_of_nextMark hrest]
  rfl

theorem takes_conjunction (h : Takes (negation t) ts e (NextMark afterRelation)) :
    Takes (conjunction t) ts e (NextMark afterConjunction) :=
  takes_conjuncts (leads_conjunct h)

theorem takes_and (ha : Takes (negation t) ts a (NextMark afterRelation))
    (hb : Takes (negation t) us b (NextMark afterRelation)) :
    Takes (conjunction t) (ts ++ .mark .and :: us) (.and a b) (NextMark afterConjunction) :=
  takes_conjuncts (leads_and (leads_conjunct ha) hb)

theorem disjuncts_of_nextIsNot (left : Expression) {rest : Tokens}
    (h : NextIsNot (· = .mark .or) rest) : disjuncts t left rest = .ok (.stay left rest) := by
  rw [disjuncts.eq_2 t left rest fun text rest heq => h _ (by rw [heq]; rfl) rfl]
  rfl

theorem disjuncts_of_nextMark {rest : Tokens} (hr : NextMark afterExpression rest)
    (left : Expression) : disjuncts t left rest = .ok (.stay left rest) :=
  disjuncts_of_nextIsNot left (hr.nextIsNot (by decide))

theorem leads_disjunct (h : Takes (conjunction t) ts e (NextMark afterConjunction)) :
    Leads (disjunction t) (disjuncts t) ts e (NextMark afterConjunction) := by
  intro ls rest hls hrest
  obtain ⟨hlt, hread⟩ := h ls rest hls hrest
  refine ⟨hlt, ?_⟩
  rw [disjunction, hread]
  rfl

theorem leads_or (ha : Leads (disjunction t) (disjuncts t) ts a (NextMark afterConjunction))
    (hb : Takes (conjunction t) us b (NextMark afterConjunction)) :
    Leads (disjunction t) (disjuncts t) (ts ++ .mark .or :: us) (.or a b)
      (NextMark afterConjunction) := by
  intro ls rest hls hrest
  obtain ⟨la, lm, rfl, hla, hlm⟩ := List.map_eq_append_iff.1 hls
  obtain ⟨⟨_, text⟩, lb, rfl, rfl, hlb⟩ := List.map_eq_cons_iff.1 hlm
  obtain ⟨hlta, hreada⟩ := ha la (⟨.mark .or, text⟩ :: (lb ++ rest)) hla
    (nextMark_cons (by decide) _ _)
  obtain ⟨hltb, hreadb⟩ := hb lb rest hlb hrest
  rw [List.append_assoc, List.cons_append]
  refine ⟨by grind, ?_⟩
  rw [hreada, disjuncts]
  simp only [bind, Except.bind, hreadb]
  cases disjuncts t (.or a b) rest <;> rfl

theorem takes_disjuncts (h : Leads (disjunction t) (disjuncts t) ts e (NextMark afterConjunction)) :
    Takes (disjunction t) ts e (NextMark afterExpression) := by
  intro ls rest hls hrest
  obtain ⟨hlt, hread⟩ := h ls rest hls (hrest.mono (by decide))
  refine ⟨hlt, ?_⟩
  rw [hread, disjuncts_of_nextMark hrest]
  rfl

theorem takes_disjunction (h : Takes (conjunction t) ts e (NextMark afterConjunction)) :
    Takes (disjunction t) ts e (NextMark afterExpression) :=
  takes_disjuncts (leads_disjunct h)

theorem takes_or (ha : Takes (conjunction t) ts a (NextMark afterConjunction))
    (hb : Takes (conjunction t) us b (NextMark afterConjunction)) :
    Takes (disjunction t) (ts ++ .mark .or :: us) (.or a b) (NextMark afterExpression) :=
  takes_disjuncts (leads_or (leads_disjunct ha) hb)

theorem takes_parens (h : Takes (disjunction t) ts e (NextMark afterExpression)) :
    Takes (operand t) (.mark .openParen :: (ts ++ [.mark .closeParen])) e Anything := by
  intro ls rest hls _
  obtain ⟨⟨_, text⟩, lp, rfl, rfl, hlp⟩ := List.map_eq_cons_iff.1 hls
  obtain ⟨le, lc, rfl, hle, hlc⟩ := List.map_eq_append_iff.1 hlp
  obtain ⟨⟨_, close⟩, rfl, rfl⟩ := List.map_eq_singleton_iff.1 hlc
  obtain ⟨hlt, hread⟩ := h le (⟨.mark .closeParen, close⟩ :: rest) hle
    (nextMark_cons (by decide) _ _)
  rw [List.cons_append, List.append_assoc, List.singleton_append]
  refine ⟨by grind, ?_⟩
  rw [operand]
  simp only [bind, Except.bind, hread]
  rfl

theorem takes_var (name : String) : Takes (operand t) [.var name] (.var name) Anything :=
  .single fun text rest _ => by simp [operand]

theorem takes_const (ht : t.base = none) {c : Term} (hvar : c.isVar = false) :
    Takes (operand t) (c.tokens Iri.token) (.const c) (NextIsNot ExtendsLiteral) := by
  cases c with
  | iri i =>
    refine .single fun text rest _ => ?_
    rw [operand]
    simp only [Iri.token, iri_token ht]
    rfl
  | literal l =>
    intro ls rest hls hrest
    obtain ⟨hlt, hread⟩ := takes_literal ht .expression l ls rest hls hrest
    obtain ⟨⟨_, text⟩, ls, rfl, rfl, -⟩ := List.map_eq_cons_iff.1 hls
    refine ⟨hlt, ?_⟩
    simp only [List.cons_append] at hread ⊢
    rw [operand]
    simp only [hread]
    rfl
  | var name => cases hvar

abbrev IsFunction (name : String) : Prop :=
  Text.lowercase name = name ∧ name ∉ aggregates ∧ name ∉ ["exists", "not", "true", "false"]

theorem takes_call {word name : String} (hword : Text.lowercase word = name) (hn : IsFunction name)
    (h : ∀ paren, Takes (arguments t name paren) ts e (NextMark [.closeParen])) :
    Takes (operand t) (.word word :: .mark .openParen :: (ts ++ [.mark .closeParen])) e
      Anything := by
  intro ls rest hls _
  obtain ⟨⟨_, text⟩, lp, rfl, rfl, hlp⟩ := List.map_eq_cons_iff.1 hls
  obtain ⟨⟨_, paren⟩, la, rfl, rfl, hla⟩ := List.map_eq_cons_iff.1 hlp
  obtain ⟨le, lc, rfl, hle, hlc⟩ := List.map_eq_append_iff.1 hla
  obtain ⟨⟨_, close⟩, rfl, rfl⟩ := List.map_eq_singleton_iff.1 hlc
  obtain ⟨hlt, hread⟩ := h ⟨.mark .openParen, paren⟩ le (⟨.mark .closeParen, close⟩ :: rest) hle
    (nextMark_cons (by decide) _ _)
  obtain ⟨-, haggregates, hother⟩ := hn
  simp only [List.mem_cons, List.not_mem_nil, or_false, not_or] at hother
  have hboolean : ¬ (word = "true" ∨ word = "false") := by
    rintro (rfl | rfl)
    · exact hother.2.2.1 (hword.symm.trans (by decide))
    · exact hother.2.2.2 (hword.symm.trans (by decide))
  rw [List.cons_append, List.cons_append, List.append_assoc, List.singleton_append]
  refine ⟨by grind, ?_⟩
  rw [operand]
  simp only [hboolean, if_false]
  rw [call]
  simp only [hword, List.contains_eq_mem, haggregates, hother, decide_false, Bool.false_eq_true,
    or_self, if_false, ne_eq, not_true_eq_false, bind, Except.bind, hread]
  rfl

theorem takes_bound (name : String) (paren : Located) :
    Takes (arguments t "bound" paren) [.var name] (.bound name) (NextMark [.closeParen]) :=
  .single fun text rest _ => by simp [arguments, boundArgument]

theorem takes_unary {name : String} {f : Expression → Expression}
    (hf : unaryFunction? name = some f)
    (hn : name ≠ "bound" ∧ name ≠ "regex" ∧ (binaryFunction? name).isNone)
    (h : Takes (disjunction t) ts e (NextMark afterExpression)) (paren : Located) :
    Takes (arguments t name paren) ts (f e) (NextMark [.closeParen]) := by
  intro ls rest hls hrest
  obtain ⟨hlt, hread⟩ := h ls rest hls (hrest.mono (by decide))
  refine ⟨hlt, ?_⟩
  rw [arguments]
  simp only [hn.1, hn.2.1, if_false, Option.isNone_iff_eq_none.1 hn.2.2, hf, bind, Except.bind,
    hread]
  rfl

theorem takes_binary {name : String} {f : Expression → Expression → Expression}
    (hf : binaryFunction? name = some f) (hn : name ≠ "bound" ∧ name ≠ "regex")
    (ha : Takes (disjunction t) ts a (NextMark afterExpression))
    (hb : Takes (disjunction t) us b (NextMark afterExpression)) (paren : Located) :
    Takes (arguments t name paren) (ts ++ .mark .comma :: us) (f a b) (NextMark [.closeParen]) := by
  intro ls rest hls hrest
  obtain ⟨la, lm, rfl, hla, hlm⟩ := List.map_eq_append_iff.1 hls
  obtain ⟨⟨_, text⟩, lb, rfl, rfl, hlb⟩ := List.map_eq_cons_iff.1 hlm
  obtain ⟨hlta, hreada⟩ := ha la (⟨.mark .comma, text⟩ :: (lb ++ rest)) hla
    (nextMark_cons (by decide) _ _)
  obtain ⟨hltb, hreadb⟩ := hb lb rest hlb (hrest.mono (by decide))
  rw [List.append_assoc, List.cons_append]
  refine ⟨by grind, ?_⟩
  rw [arguments]
  simp only [hn.1, hn.2, if_false, hf, bind, Except.bind, hreada]
  have hcomma : mark .comma (.callComma name) (⟨.mark .comma, text⟩ :: (lb ++ rest)) =
      .ok (.stay () (lb ++ rest)) := by simp [mark, Tokens.mark, took]
  simp only [hcomma, Reading.stay, hreadb]

theorem compile_eq (p : TextPattern) : TextPattern.compile p.pattern p.flags = .ok p := by
  unfold TextPattern.compile
  split
  next r hr => exact congrArg Except.ok (TextPattern.ext rfl rfl)
  next fault hr =>
    rw [p.compiles] at hr
    cases hr

def Compiles (pattern flags : String) (p : TextPattern) : Prop :=
  (∀ c ∈ flags.toList, c ∈ TextPattern.knownFlags) ∧ TextPattern.compile pattern flags = .ok p

theorem textPattern_eq_ok_iff {pattern flags : String} {ts : Tokens} {p : TextPattern} :
    textPattern pattern flags ts = .ok p ↔ Compiles pattern flags p := by
  unfold textPattern Compiles
  split
  next c hc =>
    have hunknown : c ∉ TextPattern.knownFlags := by simpa using List.find?_some hc
    refine ⟨nofun, fun h => absurd (h.1 c (List.mem_of_find?_eq_some hc)) hunknown⟩
  next hflags =>
    have hknown : ∀ c ∈ flags.toList, c ∈ TextPattern.knownFlags := by
      simpa using List.find?_eq_none.1 hflags
    cases TextPattern.compile pattern flags with
    | ok q => simpa using fun _ => hknown
    | error fault => simp [fail]

theorem regexArguments_pattern {pattern : String} {p : TextPattern} {rest : Tokens}
    (hrest : NextIsNot (· = .mark .comma) rest) (hp : Compiles pattern "" p)
    (target : Expression) (a b : List Char) :
    ∃ h, regexArguments target (⟨.mark .comma, a⟩ :: ⟨.string pattern, b⟩ :: rest) =
      .ok ⟨.regex target p, rest, h⟩ := by
  refine ⟨by simp only [List.length_cons]; omega, ?_⟩
  simp only [regexArguments, mark, Tokens.mark, if_true, took, Reading.stay, bind, Except.bind,
    stringArgument]
  split
  · exact absurd rfl (hrest _ rfl)
  · simp only [textPattern_eq_ok_iff.2 hp]

theorem regexArguments_flags {pattern flags : String} {p : TextPattern} {rest : Tokens}
    (hp : Compiles pattern flags p) (target : Expression) (a b c d : List Char) :
    ∃ h, regexArguments target (⟨.mark .comma, a⟩ :: ⟨.string pattern, b⟩ :: ⟨.mark .comma, c⟩ ::
      ⟨.string flags, d⟩ :: rest) = .ok ⟨.regex target p, rest, h⟩ := by
  refine ⟨by simp only [List.length_cons]; omega, ?_⟩
  simp only [regexArguments, mark, Tokens.mark, if_true, took, Reading.stay, bind, Except.bind,
    stringArgument, textPattern_eq_ok_iff.2 hp]

inductive SpellsPattern : List Token → TextPattern → Prop
  | plain {pattern : String} {p : TextPattern} (h : Compiles pattern "" p) :
    SpellsPattern [.mark .comma, .string pattern] p
  | flagged {pattern flags : String} {p : TextPattern} (h : Compiles pattern flags p) :
    SpellsPattern [.mark .comma, .string pattern, .mark .comma, .string flags] p

theorem takes_regexArguments {p : TextPattern} (h : SpellsPattern ts p) (target : Expression) :
    Takes (regexArguments target) ts (.regex target p) (NextMark [.closeParen]) := by
  rintro ls rest hls ⟨m, hm, close, rest', rfl⟩
  obtain rfl := List.mem_singleton.1 hm
  cases h with
  | plain h =>
    obtain ⟨⟨_, comma⟩, lp, rfl, rfl, hlp⟩ := List.map_eq_cons_iff.1 hls
    obtain ⟨⟨_, pattern⟩, rfl, rfl⟩ := List.map_eq_singleton_iff.1 hlp
    exact regexArguments_pattern (nextIsNot_cons nofun _) h target comma pattern
  | flagged h =>
    obtain ⟨⟨_, comma⟩, lp, rfl, rfl, hlp⟩ := List.map_eq_cons_iff.1 hls
    obtain ⟨⟨_, pattern⟩, lf, rfl, rfl, hlf⟩ := List.map_eq_cons_iff.1 hlp
    obtain ⟨⟨_, comma'⟩, lg, rfl, rfl, hlg⟩ := List.map_eq_cons_iff.1 hlf
    obtain ⟨⟨_, flags⟩, rfl, rfl⟩ := List.map_eq_singleton_iff.1 hlg
    exact regexArguments_flags h target comma pattern comma' flags

theorem takes_regex {p : TextPattern} (hp : SpellsPattern us p)
    (h : Takes (disjunction t) ts e (NextMark afterExpression)) (paren : Located) :
    Takes (arguments t "regex" paren) (ts ++ us) (.regex e p) (NextMark [.closeParen]) := by
  intro ls rest hls hrest
  obtain ⟨le, lp, rfl, hle, hlp⟩ := List.map_eq_append_iff.1 hls
  obtain ⟨hltp, hreadp⟩ := takes_regexArguments hp e lp rest hlp hrest
  have hcomma : NextMark afterExpression (lp ++ rest) := by
    cases hp with
    | plain | flagged =>
      obtain ⟨⟨_, comma⟩, lp, rfl, rfl, -⟩ := List.map_eq_cons_iff.1 hlp
      exact nextMark_cons (by decide) _ _
  obtain ⟨hlt, hread⟩ := h le (lp ++ rest) hle hcomma
  rw [List.append_assoc]
  refine ⟨by omega, ?_⟩
  rw [arguments]
  simp only [bind, Except.bind, hread, hreadp]
  rfl

def patternTokens (p : TextPattern) : List Token :=
  .mark .comma :: .string p.pattern ::
    if p.flags.isEmpty then [] else [.mark .comma, .string p.flags]

theorem spellsPattern_patternTokens {p : TextPattern}
    (h : ∀ c ∈ p.flags.toList, c ∈ TextPattern.knownFlags) :
    SpellsPattern (patternTokens p) p := by
  have hcompiles : Compiles p.pattern p.flags p := ⟨h, compile_eq p⟩
  unfold patternTokens
  split
  next hflags =>
    rw [show p.flags = "" by simpa using hflags] at hcompiles
    exact .plain hcompiles
  next => exact .flagged hcompiles

/-- What is read back of an expression: the expression itself, and the operand that it makes. -/
structure ReadsBack (t : Namespaces) (e : Expression) : Prop where
  whole : Takes (disjunction t) (tokens e.words) e (NextMark afterExpression)
  operand : Takes (QueryParser.operand t) (tokens e.operandWords) e (NextIsNot ExtendsLiteral)

theorem tokens_parens (ws : List Word) :
    tokens (Words.parens ws) = .mark .openParen :: (tokens ws ++ [.mark .closeParen]) := by
  simp [Words.parens, Word.tokens]

theorem noBang_operandWords (e : Expression) : NoBang (tokens e.operandWords) := by
  cases e with
  | const c =>
    cases c <;> exact ⟨_, _, rfl, by simp [Iri.token]⟩
  | _ => exact ⟨_, _, rfl, by simp⟩

theorem ReadsBack.negation {t : Namespaces} {e : Expression} (h : ReadsBack t e) :
    Takes (negation t) (tokens e.operandWords) e (NextMark afterRelation) :=
  takes_negation (takes_relation h.operand) (noBang_operandWords e)

theorem ReadsBack.conjunction {t : Namespaces} {e : Expression} (h : ReadsBack t e) :
    Takes (conjunction t) (tokens e.operandWords) e (NextMark afterConjunction) :=
  takes_conjunction h.negation

theorem readsBack_of_operand (hsimple : e.isCompound = false)
    (h : Takes (operand t) (tokens e.words) e (NextIsNot ExtendsLiteral)) : ReadsBack t e := by
  have hwords : e.operandWords = e.words := by
    simp [Expression.operandWords, Expression.enclose, hsimple]
  have hbang := noBang_operandWords e
  rw [hwords] at hbang
  refine ⟨takes_disjunction (takes_conjunction (takes_negation (takes_relation h) hbang)), ?_⟩
  rwa [hwords]

theorem readsBack_of_compound (hcompound : e.isCompound)
    (h : Takes (disjunction t) (tokens e.words) e (NextMark afterExpression)) : ReadsBack t e := by
  refine ⟨h, ?_⟩
  rw [Expression.operandWords, Expression.enclose, if_pos hcompound, tokens_parens]
  exact (takes_parens h).mono fun _ _ => trivial

theorem readsBack_call {name : String} {ws : List Word}
    (hwords : e.words = .name name :: Words.parens ws) (hsimple : e.isCompound = false)
    (hn : IsFunction name)
    (h : ∀ paren, Takes (arguments t name paren) (tokens ws) e (NextMark [.closeParen])) :
    ReadsBack t e := by
  refine readsBack_of_operand hsimple ?_
  rw [hwords, Words.tokens_cons, tokens_parens]
  exact (takes_call hn.1 hn h).mono fun _ _ => trivial

theorem readsBack_infix {m : Mark} (hcompound : e.isCompound)
    (hwords : e.words = a.operandWords ++ .mark m :: b.operandWords)
    (h : Takes (disjunction t) (tokens a.operandWords ++ .mark m :: tokens b.operandWords) e
      (NextMark afterExpression)) : ReadsBack t e := by
  refine readsBack_of_compound hcompound ?_
  rwa [hwords, Words.tokens_append, Words.tokens_cons]

theorem readsBack_pair (name : String) {f : Expression → Expression → Expression}
    (hf : binaryFunction? name = some f) (hn : IsFunction name)
    (hne : name ≠ "bound" ∧ name ≠ "regex") (hsimple : (f a b).isCompound = false)
    (hwords : (f a b).words = .name name :: Words.parens (a.words ++ .mark .comma :: b.words))
    (ha : ReadsBack t a) (hb : ReadsBack t b) : ReadsBack t (f a b) := by
  refine readsBack_call hwords hsimple hn fun paren => ?_
  rw [Words.tokens_append, Words.tokens_cons]
  exact takes_binary hf hne ha.whole hb.whole paren

theorem noBang_append (hts : NoBang ts) (us : List Token) : NoBang (ts ++ us) := by
  obtain ⟨tok, vs, rfl, hne⟩ := hts
  exact ⟨tok, vs ++ us, rfl, hne⟩

theorem readsBack (ht : t.base = none) (h : e.Grammatical) : ReadsBack t e := by
  induction e with
  | var name => exact readsBack_of_operand rfl ((takes_var name).mono fun _ _ => trivial)
  | const c =>
    refine readsBack_of_operand rfl ?_
    rw [Expression.words, Words.tokens_cons, Words.tokens_nil, List.append_nil]
    exact takes_const ht h
  | bound name => exact readsBack_call rfl rfl (by decide) (takes_bound name)
  | not e ih =>
    have hnot := takes_not (ih h).negation
    exact readsBack_of_compound rfl (takes_disjunction (takes_conjunction hnot))
  | and a b iha ihb =>
    have hand := takes_and (iha h.1).negation (ihb h.2).negation
    exact readsBack_infix rfl rfl (takes_disjunction hand)
  | or a b iha ihb =>
    have hor := takes_or (iha h.1).conjunction (ihb h.2).conjunction
    exact readsBack_infix rfl rfl hor
  | compare op a b iha ihb =>
    have hcompare := takes_compare op (iha h.1).operand (ihb h.2).operand
    have hnegation := takes_negation hcompare (noBang_append (noBang_operandWords a) _)
    exact readsBack_infix rfl rfl (takes_disjunction (takes_conjunction hnegation))
  | regex e p ih =>
    refine readsBack_call rfl rfl (by decide) fun paren => ?_
    have hregex := takes_regex (spellsPattern_patternTokens h.2) (ih h.1).whole paren
    by_cases hflags : p.flags.isEmpty
    · simpa [patternTokens, hflags, Word.tokens, Word.string, Term.tokens, Literal.tokens,
        Literal.suffix, Literal.plain] using hregex
    · simpa [patternTokens, hflags, Word.tokens, Word.string, Term.tokens, Literal.tokens,
        Literal.suffix, Literal.plain] using hregex
  | contains a b iha ihb =>
    exact readsBack_pair "contains" rfl (by decide) (by decide) rfl rfl
      (iha h.1) (ihb h.2)
  | strStarts a b iha ihb =>
    exact readsBack_pair "strstarts" rfl (by decide) (by decide) rfl rfl
      (iha h.1) (ihb h.2)
  | strEnds a b iha ihb =>
    exact readsBack_pair "strends" rfl (by decide) (by decide) rfl rfl
      (iha h.1) (ihb h.2)
  | str e ih =>
    exact readsBack_call rfl rfl (by decide) (takes_unary rfl (by decide) (ih h).whole)
  | lang e ih =>
    exact readsBack_call rfl rfl (by decide) (takes_unary rfl (by decide) (ih h).whole)
  | isIri e ih =>
    exact readsBack_call rfl rfl (by decide) (takes_unary rfl (by decide) (ih h).whole)
  | isLiteral e ih =>
    exact readsBack_call rfl rfl (by decide) (takes_unary rfl (by decide) (ih h).whole)

end LinkedRaces.QueryParser
