import LinkedRaces.Proofs.Lexical.Unquoting
import LinkedRaces.Proofs.Query.Parser.Groups

/-!
The parser of queries on a number with and without quotes: terms, conditions, patterns and groups.
The number may be an object, or an operand of a condition. Where a string alone is expected, the
number may be taken for one, but its datatype is left then, and nothing can follow.
-/

namespace LinkedRaces.QueryParser

open Tokens (took)
open Unquoted (Agree agree_took agree_mark agree_quoted agree_commaSeparated
  agree_semicolonSeparated)

variable {n : Numeral} {x : Context} {t : Namespaces} {ts us : Tokens}

theorem agree_iri (t : Namespaces) (h : Unquoted n x ts us) : Agree n x (iri t ts) (iri t us) := by
  cases h.next with
  | nil => exact .error _ _
  | same tok text text' rest =>
    rw [iri, iri]
    dsimp only
    split
    · exact agree_took _ _ _ rest
    · split
      · exact agree_took _ _ _ rest
      · exact .error _ _
    · exact .error _ _
  | number => exact .error _ _

theorem agree_term {α : Type} {f : Iri → α} (t : Namespaces) (h : Unquoted n x ts us) :
    Agree n x (do return (← iri t ts).map f : Result α ts) (do return (← iri t us).map f) :=
  (agree_iri t h).andThen fun _ _ _ _ _ hrest => .ok ⟨rfl, hrest⟩

theorem iri_datatype (n : Numeral) (t : Namespaces) (text : List Char) (rest : Tokens) :
    iri t (⟨n.datatype.token, text⟩ :: rest) = took n.datatype ⟨n.datatype.token, text⟩ rest := by
  have hresolve := Namespaces.resolve_absolute n.absolute_datatype t
  simp [iri, Iri.token, hresolve]

theorem agree_literal (t : Namespaces) (fault : QueryFault) (h : Unquoted n x ts us) :
    Agree n x (literal t fault ts) (literal t fault us) := by
  cases h.next with
  | nil => exact .error _ _
  | same tok text text' rest =>
    rw [literal, literal]
    dsimp only
    split
    · exact agree_quoted (agree_iri t) _ _ _ rest
    · exact agree_took _ _ _ rest
    · exact .error _ _
  | @number a b c text ts us rest =>
    obtain ⟨hlt, hquoted⟩ := Tokens.quoted_number (iri_datatype n t)
      ⟨.string (String.ofList n.text), a⟩ b c ts
    rcases n.opening_cases x with ⟨hsplit, hopening | hopening⟩ | ⟨hwhole, hopening⟩
    · rw [hopening]
      exact .fails hsplit _ _
    · rw [hopening]
      exact .fails hsplit _ _
    · rw [hopening, literal_of_shorthand n.shorthand?_token]
      simp only [literal, hquoted]
      exact .ok ⟨rfl, rest hwhole⟩

theorem agree_subject (t : Namespaces) (h : Unquoted n x ts us) :
    Agree n x (subject t ts) (subject t us) := by
  cases h.next with
  | nil => exact .error _ _
  | same tok text text' rest =>
    rw [subject, subject]
    dsimp only
    split
    · exact agree_took _ _ _ rest
    · exact agree_term t h
    · exact agree_term t h
    all_goals exact .error _ _
  | number => exact .error _ _

theorem agree_predicate (t : Namespaces) (h : Unquoted n x ts us) :
    Agree n x (predicate t ts) (predicate t us) := by
  cases h.next with
  | nil => exact .error _ _
  | same tok text text' rest =>
    rw [predicate, predicate]
    dsimp only
    split
    · exact agree_took _ _ _ rest
    · split
      · exact agree_took _ _ _ rest
      · exact .error _ _
    · exact agree_term t h
    · exact agree_term t h
    all_goals exact .error _ _
  | number => exact .error _ _

theorem object_of_opensLiteral {tok : Token} (htok : tok.OpensLiteral) (text : List Char)
    (rest : Tokens) :
    object t (⟨tok, text⟩ :: rest) =
      do return (← literal t .object (⟨tok, text⟩ :: rest)).map .literal := by
  cases htok <;> rfl

theorem agree_object (t : Namespaces) (h : Unquoted n x ts us) :
    Agree n x (object t ts) (object t us) := by
  cases h.next with
  | nil => exact .error _ _
  | same tok text text' rest =>
    rw [object, object]
    dsimp only
    split
    · exact agree_took _ _ _ rest
    · exact agree_term t h
    · exact agree_term t h
    · exact .error _ _
    · exact .error _ _
    · exact .error _ _
    · exact (agree_literal t .object h).andThen fun _ _ _ _ _ hrest => .ok ⟨rfl, hrest⟩
  | number a b c text =>
    rw [object_of_opensLiteral (.string _), object_of_opensLiteral (n.opensLiteral_opening x)]
    exact (agree_literal t .object h).andThen fun _ _ _ _ _ hrest => .ok ⟨rfl, hrest⟩

theorem rejectArithmetic_cons {tok : Token} (htok : ∀ m, tok ≠ .mark m) (text : List Char)
    (rest : Tokens) : rejectArithmetic (⟨tok, text⟩ :: rest) = .ok () := by
  cases tok with
  | mark m => exact absurd rfl (htok m)
  | _ => rfl

theorem follows_rejectArithmetic (h : Unquoted n x ts us) :
    Follows (n.Splits x) (fun _ _ => True) (rejectArithmetic ts) (rejectArithmetic us) := by
  cases h.next with
  | nil => exact .ok trivial
  | same tok text text' rest =>
    cases tok with
    | mark m =>
      rw [rejectArithmetic, rejectArithmetic]
      split
      · exact .error _ _
      · exact .ok trivial
    | _ => exact .ok trivial
  | number a b c text rest =>
    rcases n.opening_cases x with ⟨hsplit, hopening | hopening⟩ | ⟨hwhole, hopening⟩
    · rw [hopening]
      exact .fails hsplit _ _
    · rw [hopening]
      exact .fails hsplit _ _
    · rw [hopening, rejectArithmetic_cons n.token_ne_mark]
      exact .ok trivial

theorem agree_boundArgument (a b : Located) (h : Unquoted n x ts us) :
    Agree n x (boundArgument a ts) (boundArgument b us) := by
  cases h.next with
  | nil => exact .error _ _
  | same tok text text' rest =>
    cases tok with
    | var name => exact agree_took _ _ _ rest
    | _ => exact .error _ _
  | number => exact .error _ _

theorem eq_of_mark {m : Mark} {fault : QueryFault} {value : Unit} {rest : Tokens}
    {hlt : rest.length < ts.length} (h : mark m fault ts = .ok ⟨value, rest, hlt⟩) :
    ∃ text, ts = ⟨.mark m, text⟩ :: rest := by
  cases ts with
  | nil => cases h
  | cons a ts =>
    simp only [mark, Tokens.mark] at h
    split at h
    next htok =>
      cases h
      exact ⟨a.text, by rw [← htok]⟩
    next => cases h

theorem eq_of_stringArgument {fault : QueryFault} {value : String} {rest : Tokens}
    {hlt : rest.length < ts.length} (h : stringArgument fault ts = .ok ⟨value, rest, hlt⟩) :
    ∃ text, ts = ⟨.string value, text⟩ :: rest := by
  unfold stringArgument at h
  split at h
  next value text rest =>
    cases h
    exact ⟨text, rfl⟩
  next => cases h

theorem regexArguments_eq_ok {target : Expression} {r : Reading Located Expression ts.length}
    (h : regexArguments target ts = .ok r) :
    (∃ a b pattern p, ts = ⟨.mark .comma, a⟩ :: ⟨.string pattern, b⟩ :: r.rest ∧
      NextIsNot (· = .mark .comma) r.rest ∧ Compiles pattern "" p ∧ r.value = .regex target p) ∨
    ∃ a b c d pattern flags p, ts = ⟨.mark .comma, a⟩ :: ⟨.string pattern, b⟩ ::
        ⟨.mark .comma, c⟩ :: ⟨.string flags, d⟩ :: r.rest ∧
      Compiles pattern flags p ∧ r.value = .regex target p := by
  unfold regexArguments at h
  obtain ⟨⟨_, rest₁, h₁⟩, hcomma, h⟩ := Scanner.bind_eq_ok.1 h
  obtain ⟨a, rfl⟩ := eq_of_mark hcomma
  obtain ⟨⟨pattern, rest₂, h₂⟩, hpattern, h⟩ := Scanner.bind_eq_ok.1 h
  obtain ⟨b, rfl⟩ := eq_of_stringArgument hpattern
  dsimp only at h
  split at h
  next c rest₃ h₂ =>
    obtain ⟨⟨flags, rest₄, h₄⟩, hflags, h⟩ := Scanner.bind_eq_ok.1 h
    obtain ⟨d, rfl⟩ := eq_of_stringArgument hflags
    obtain ⟨p, hp, h⟩ := Scanner.bind_eq_ok.1 h
    obtain rfl := Except.ok.inj h
    exact .inr ⟨a, b, _, d, pattern, flags, p, rfl, textPattern_eq_ok_iff.1 hp, rfl⟩
  next rest₂ h₂ hne =>
    obtain ⟨p, hp, h⟩ := Scanner.bind_eq_ok.1 h
    obtain rfl := Except.ok.inj h
    refine .inl ⟨a, b, pattern, p, rfl, fun y hy hcomma => ?_, textPattern_eq_ok_iff.1 hp, rfl⟩
    obtain ⟨tok, c⟩ := y
    obtain rfl : tok = .mark .comma := hcomma
    obtain ⟨rest₃, rfl⟩ := List.head?_eq_some_iff.1 hy
    exact hne c rest₃ _ rfl HEq.rfl

theorem regexArguments_similar {target : Expression} {r : Reading Located Expression ts.length}
    (h : Unquoted n x ts us) (hread : regexArguments target ts = .ok r)
    (hnext : NextIsNot (· = .mark .doubleCaret) r.rest) :
    ∃ r', regexArguments target us = .ok r' ∧ r.Similar (Unquoted n x) id r' := by
  rcases regexArguments_eq_ok hread with ⟨a, b, pattern, p, hts, hcomma, hp, hvalue⟩ |
    ⟨a, b, c, d, pattern, flags, p, hts, hp, hvalue⟩
  · rw [hts] at h
    obtain ⟨a', _, rfl, h₁⟩ := h.of_cons (nextIsNot_cons nofun _)
    obtain ⟨b', us, rfl, h₂⟩ := h₁.of_cons hnext
    have hcomma' := h₂.nextIsNot (by decide) (by decide) hcomma
    obtain ⟨hlt, hread'⟩ := regexArguments_pattern hcomma' hp target a' b'
    exact ⟨_, hread', hvalue.symm, h₂⟩
  · rw [hts] at h
    obtain ⟨a', _, rfl, h₁⟩ := h.of_cons (nextIsNot_cons nofun _)
    obtain ⟨b', _, rfl, h₂⟩ := h₁.of_cons (nextIsNot_cons nofun _)
    obtain ⟨c', _, rfl, h₃⟩ := h₂.of_cons (nextIsNot_cons nofun _)
    obtain ⟨d', us, rfl, h₄⟩ := h₃.of_cons hnext
    obtain ⟨hlt, hread'⟩ := regexArguments_flags hp target a' b' c' d'
    exact ⟨_, hread', hvalue.symm, h₄⟩

theorem operand_of_opensLiteral {tok : Token} (htok : tok.OpensLiteral) (text : List Char)
    (rest : Tokens) :
    operand t (⟨tok, text⟩ :: rest) =
      do return (← literal t .expression (⟨tok, text⟩ :: rest)).map (.const ∘ .literal) := by
  rw [operand]
  cases htok <;> rfl

mutual

theorem agree_disjunction (t : Namespaces) {ts us : Tokens} (h : Unquoted n x ts us) :
    Agree n x (disjunction t ts) (disjunction t us) := by
  rw [disjunction, disjunction]
  refine (agree_conjunction t h).andThen fun e rest rest' hlt hlt' hrest => ?_
  exact (agree_disjuncts t e hrest).andThen fun _ _ _ _ _ hrest => .ok ⟨rfl, hrest⟩
termination_by (ts.length, 6)

theorem agree_disjuncts (t : Namespaces) (left : Expression) {ts us : Tokens}
    (h : Unquoted n x ts us) : Agree n x (disjuncts t left ts) (disjuncts t left us) := by
  rcases Unquoted.skipsAlike (m := .or) (by decide) (by decide) h with
    ⟨hts, hus⟩ | ⟨⟨_, _⟩, ⟨_, _⟩, ts', us', hts, rfl, rfl, rfl, hmore⟩
  · rw [disjuncts_of_nextIsNot left hts, disjuncts_of_nextIsNot left hus]
    exact .ok ⟨rfl, h⟩
  · have hlonger : ts'.length < ts.length := by simp [hts]
    rw [hts, disjuncts, disjuncts]
    refine (agree_conjunction t hmore).andThen fun right rest rest' hlt hlt' hrest => ?_
    exact (agree_disjuncts t (.or left right) hrest).andThen fun _ _ _ _ _ hrest =>
      .ok ⟨rfl, hrest⟩
termination_by (ts.length, 0)

theorem agree_conjunction (t : Namespaces) {ts us : Tokens} (h : Unquoted n x ts us) :
    Agree n x (conjunction t ts) (conjunction t us) := by
  rw [conjunction, conjunction]
  refine (agree_negation t h).andThen fun e rest rest' hlt hlt' hrest => ?_
  exact (agree_conjuncts t e hrest).andThen fun _ _ _ _ _ hrest => .ok ⟨rfl, hrest⟩
termination_by (ts.length, 5)

theorem agree_conjuncts (t : Namespaces) (left : Expression) {ts us : Tokens}
    (h : Unquoted n x ts us) : Agree n x (conjuncts t left ts) (conjuncts t left us) := by
  rcases Unquoted.skipsAlike (m := .and) (by decide) (by decide) h with
    ⟨hts, hus⟩ | ⟨⟨_, _⟩, ⟨_, _⟩, ts', us', hts, rfl, rfl, rfl, hmore⟩
  · rw [conjuncts_of_nextIsNot left hts, conjuncts_of_nextIsNot left hus]
    exact .ok ⟨rfl, h⟩
  · have hlonger : ts'.length < ts.length := by simp [hts]
    rw [hts, conjuncts, conjuncts]
    refine (agree_negation t hmore).andThen fun right rest rest' hlt hlt' hrest => ?_
    exact (agree_conjuncts t (.and left right) hrest).andThen fun _ _ _ _ _ hrest =>
      .ok ⟨rfl, hrest⟩
termination_by (ts.length, 0)

theorem agree_negation (t : Namespaces) {ts us : Tokens} (h : Unquoted n x ts us) :
    Agree n x (negation t ts) (negation t us) := by
  rcases Unquoted.skipsAlike (m := .bang) (by decide) (by decide) h with
    ⟨hts, hus⟩ | ⟨⟨_, _⟩, ⟨_, _⟩, ts', us', hts, rfl, rfl, rfl, hmore⟩
  · rw [negation_of_nextIsNot hts, negation_of_nextIsNot hus]
    exact agree_relation t h
  · have hlonger : ts'.length < ts.length := by simp [hts]
    rw [hts, negation, negation]
    exact (agree_negation t hmore).andThen fun _ _ _ _ _ hrest => .ok ⟨rfl, hrest⟩
termination_by (ts.length, 4)

theorem agree_relation (t : Namespaces) {ts us : Tokens} (h : Unquoted n x ts us) :
    Agree n x (relation t ts) (relation t us) := by
  rw [relation, relation]
  refine (agree_operand t h).andThen fun left rest rest' hlt hlt' hrest => ?_
  refine (follows_rejectArithmetic hrest).bind fun _ _ _ => ?_
  dsimp only
  cases hrest.next with
  | nil => exact .ok ⟨rfl, hrest⟩
  | @same tok text text' more more' hmore =>
    have hlonger : more.length < ts.length := Nat.lt_of_succ_lt hlt
    dsimp only
    split
    · split
      · refine (agree_operand t hmore).andThen fun right rest rest' _ _ hrest => ?_
        refine (follows_rejectArithmetic hrest).bind fun _ _ _ => ?_
        exact .ok ⟨rfl, hrest⟩
      · exact .ok ⟨rfl, hrest⟩
    · split
      · exact .error _ _
      · exact .ok ⟨rfl, hrest⟩
  | number =>
    -- no mark of a comparison, and no keyword
    have htok := n.opensLiteral_opening x
    generalize n.opening x = tok at htok hrest ⊢
    cases htok <;> exact .ok ⟨rfl, hrest⟩
termination_by (ts.length, 3)

theorem agree_operand (t : Namespaces) {ts us : Tokens} (h : Unquoted n x ts us) :
    Agree n x (operand t ts) (operand t us) := by
  cases h.next with
  | nil =>
    rw [operand]
    exact .error _ _
  | @same tok text text' ts us rest =>
    rw [operand, operand]
    dsimp only
    split
    · refine (agree_disjunction t rest).andThen fun e _ _ _ _ hrest => ?_
      refine (agree_mark .closeParen _ hrest).andThen fun _ _ _ _ _ hrest => ?_
      exact .ok ⟨rfl, hrest⟩
    · exact agree_took _ _ _ rest
    · exact agree_term t h
    · exact agree_term t h
    · split
      · exact (agree_literal t .expression h).andThen fun _ _ _ _ _ hrest => .ok ⟨rfl, hrest⟩
      · exact agree_call t _ _ _ rest
    · exact (agree_literal t .expression h).andThen fun _ _ _ _ _ hrest => .ok ⟨rfl, hrest⟩
  | number =>
    rw [operand_of_opensLiteral (.string _), operand_of_opensLiteral (n.opensLiteral_opening x)]
    exact (agree_literal t .expression h).andThen fun _ _ _ _ _ hrest => .ok ⟨rfl, hrest⟩
termination_by (ts.length, 2)

theorem agree_call (t : Namespaces) (word : String) (a b : Located) {ts us : Tokens}
    (h : Unquoted n x ts us) : Agree n x (call t word a ts) (call t word b us) := by
  unfold call
  dsimp only
  split
  · exact .error _ _
  split
  · exact .error _ _
  cases h.next with
  | nil => exact .error _ _
  | @same tok text text' rest rest' hrest =>
    dsimp only
    split
    · exact .error _ _
    intro r hread
    obtain ⟨⟨e, rest₁, h₁⟩, harguments, hread⟩ := Scanner.bind_eq_ok.1 hread
    -- the parenthesis behind the arguments is no datatype
    have hnext : NextIsNot (· = .mark .doubleCaret) rest₁ := by
      obtain ⟨⟨_, rest₂, h₂⟩, hclose, -⟩ := Scanner.bind_eq_ok.1 hread
      obtain ⟨close, rfl⟩ := eq_of_mark hclose
      exact nextIsNot_cons nofun rest₂
    rcases arguments_cases t _ _ _ hrest harguments hnext with
      ⟨⟨_, rest₁', h₁'⟩, harguments', rfl, hrest₁⟩ | ⟨hsplit, e, he⟩
    · rw [harguments']
      refine (?_ : Agree n x _ _) r hread
      exact (agree_mark .closeParen _ hrest₁).andThen fun _ _ _ _ _ hrest => .ok ⟨rfl, hrest⟩
    · exact .inr ⟨hsplit, e, by rw [he]; rfl⟩
  | number => exact .error _ _
termination_by (ts.length, 1)

theorem arguments_cases (t : Namespaces) (name : String) (a b : Located) {ts us : Tokens}
    (h : Unquoted n x ts us) {r : Reading Located Expression ts.length}
    (hread : arguments t name a ts = .ok r) (hnext : NextIsNot (· = .mark .doubleCaret) r.rest) :
    (∃ r', arguments t name b us = .ok r' ∧ r.Similar (Unquoted n x) id r') ∨
      n.Splits x ∧ ∃ e, arguments t name b us = .error e := by
  rw [arguments] at hread
  rw [arguments]
  split at hread
  next hname =>
    rw [if_pos hname]
    exact agree_boundArgument a b h r hread
  next hname =>
    rw [if_neg hname]
    split at hread
    next hname =>
      rw [if_pos hname]
      obtain ⟨⟨target, rest, hlt⟩, htarget, hread⟩ := Scanner.bind_eq_ok.1 hread
      obtain ⟨s, hregex, hread⟩ := Scanner.bind_eq_ok.1 hread
      obtain rfl := Except.ok.inj hread
      rcases agree_disjunction t h _ htarget with
        ⟨⟨_, rest', hlt'⟩, htarget', rfl, hrest⟩ | ⟨hsplit, e, he⟩
      · obtain ⟨s', hregex', hs⟩ := regexArguments_similar hrest hregex hnext
        simp only [htarget', hregex', bind, Except.bind]
        exact .inl ⟨_, rfl, hs⟩
      · exact .inr ⟨hsplit, e, by rw [he]; rfl⟩
    next hname =>
      rw [if_neg hname]
      refine (?_ : Agree n x _ _) r hread
      split
      · refine (agree_disjunction t h).andThen fun first _ _ _ _ hrest => ?_
        refine (agree_mark .comma _ hrest).andThen fun _ _ _ _ _ hrest => ?_
        exact (agree_disjunction t hrest).andThen fun second _ _ _ _ hrest => .ok ⟨rfl, hrest⟩
      · exact (agree_disjunction t h).andThen fun argument _ _ _ _ hrest => .ok ⟨rfl, hrest⟩
      · exact .error _ _
termination_by (ts.length, 7)

end

theorem agree_constraint (t : Namespaces) (h : Unquoted n x ts us) :
    Agree n x (constraint t ts) (constraint t us) := by
  cases h.next with
  | nil => exact .error _ _
  | same tok text text' rest =>
    rw [constraint, constraint]
    dsimp only
    split
    · refine (agree_disjunction t rest).andThen fun e _ _ _ _ hrest => ?_
      exact (agree_mark .closeParen _ hrest).andThen fun _ _ _ _ _ hrest => .ok ⟨rfl, hrest⟩
    · split
      · exact .error _ _
      · exact agree_call t _ _ _ rest
    · exact .error _ _
  | number => exact .error _ _

theorem follows_rejectPath (h : Unquoted n x ts us) :
    Follows (n.Splits x) (fun _ _ => True) (rejectPath ts) (rejectPath us) := by
  cases h.next with
  | nil => exact .ok trivial
  | same tok text text' rest =>
    cases tok with
    | mark m =>
      rw [rejectPath, rejectPath]
      split
      · exact .error _ _
      · exact .ok trivial
    | _ => exact .ok trivial
  | number a b c text rest =>
    rcases n.opening_cases x with ⟨hsplit, hopening | hopening⟩ | ⟨hwhole, hopening⟩
    · rw [hopening]
      exact .fails hsplit _ _
    · rw [hopening]
      exact .ok trivial
    · rw [hopening, rejectPath_cons n.token_ne_mark]
      exact .ok trivial

theorem agree_predicateObjects (t : Namespaces) (s : Term) (h : Unquoted n x ts us) :
    Agree n x (predicateObjects t s ts) (predicateObjects t s us) := by
  refine (agree_predicate t h).andThen fun p _ _ _ _ hrest => ?_
  refine (follows_rejectPath hrest).bind fun _ _ _ => ?_
  exact (agree_commaSeparated (agree_object t) hrest).andThen fun objects _ _ _ _ hrest =>
    .ok ⟨rfl, hrest⟩

theorem atStatementEnd_of_opensLiteral {tok : Token} (htok : tok.OpensLiteral) (text : List Char)
    (rest : Tokens) : atStatementEnd (⟨tok, text⟩ :: rest) = false := by
  have hdot := htok.ne_mark (m := .dot) (by decide) (by decide)
  have hbrace := htok.ne_mark (m := .closeBrace) (by decide) (by decide)
  simp [atStatementEnd, groupKeyword?, htok.isKeyword, hdot, hbrace]

theorem atStatementEnd_eq (h : Unquoted n x ts us) : atStatementEnd us = atStatementEnd ts := by
  cases h.next with
  | nil => rfl
  | same => rfl
  | number =>
    rw [atStatementEnd_of_opensLiteral (n.opensLiteral_opening x),
      atStatementEnd_of_opensLiteral (.string _)]

theorem agree_predicates (t : Namespaces) (s : Term) (h : Unquoted n x ts us) :
    Agree n x (predicates t s ts) (predicates t s us) :=
  agree_semicolonSeparated (agree_predicateObjects t s) atStatementEnd_eq h

theorem agree_statement (t : Namespaces) (h : Unquoted n x ts us) :
    Agree n x (statement t ts) (statement t us) := by
  refine (agree_subject t h).andThen fun s _ _ hs hs' hrest => ?_
  refine (agree_predicates t s hrest).andThen fun patterns rest rest' hlt hlt' hrest => ?_
  have hpatterns : Reading.Similar (Unquoted n x) id
      (Reading.andThen ⟨s, _, hs⟩ ⟨patterns, rest, hlt⟩)
      (Reading.andThen ⟨s, _, hs'⟩ ⟨patterns, rest', hlt'⟩) := ⟨rfl, hrest⟩
  have hdot : SkipsAlike (Unquoted n x) .dot := Unquoted.skipsAlike (by decide) (by decide)
  rcases Tokens.skip?_similar hdot hpatterns with ⟨hskip, hskip'⟩ | ⟨r, r', hskip, hskip', hr⟩
  · simp only [hskip, hskip']
    split
    next hend =>
      rw [if_pos ((atStatementEnd_eq hpatterns.2).trans hend)]
      exact .ok hpatterns
    next => exact .error _ _
  · simp only [hskip, hskip']
    exact .ok hr

theorem agree_parts (t : Namespaces) (nested : Bool) {ts us : Tokens} (h : Unquoted n x ts us) :
    Agree n x (parts t nested ts) (parts t nested us) := by
  cases h.next with
  | nil =>
    rw [parts]
    exact .error _ _
  | @same tok text text' ts us rest =>
    rw [parts, parts]
    dsimp only
    split
    · exact agree_took _ _ _ rest
    · exact (agree_parts t nested rest).andThen fun _ _ _ _ _ hrest => .ok ⟨rfl, hrest⟩
    · exact .error _ _
    · split
      · exact .error _ _
      · refine (agree_mark .openBrace _ rest).andThen fun _ _ _ hlt _ hrest => ?_
        refine (agree_parts t true hrest).andThen fun inner _ _ hlt' _ hrest => ?_
        exact (agree_parts t nested hrest).andThen fun _ _ _ _ _ hrest => .ok ⟨rfl, hrest⟩
    · refine (agree_constraint t rest).andThen fun e _ _ hlt _ hrest => ?_
      exact (agree_parts t nested hrest).andThen fun _ _ _ _ _ hrest => .ok ⟨rfl, hrest⟩
    · exact .error _ _
    · refine (agree_statement t h).andThen fun patterns _ _ hlt _ hrest => ?_
      exact (agree_parts t nested hrest).andThen fun _ _ _ _ _ hrest => .ok ⟨rfl, hrest⟩
  | number a b c text rest =>
    rw [parts]
    exact .error _ _
termination_by ts.length
decreasing_by all_goals grind

theorem agree_group (t : Namespaces) (h : Unquoted n x ts us) :
    Agree n x (group t ts) (group t us) := by
  refine (agree_mark .openBrace _ h).andThen fun _ _ _ _ _ hrest => ?_
  exact (agree_parts t false hrest).andThen fun _ _ _ _ _ hrest => .ok ⟨rfl, hrest⟩

theorem agree_templateParts (t : Namespaces) {ts us : Tokens} (h : Unquoted n x ts us) :
    Agree n x (templateParts t ts) (templateParts t us) := by
  cases h.next with
  | nil =>
    rw [templateParts]
    exact .error _ _
  | @same tok text text' ts us rest =>
    rw [templateParts, templateParts]
    dsimp only
    split
    · exact agree_took _ _ _ rest
    · split
      · exact (agree_templateParts t rest).andThen fun _ _ _ _ _ hrest => .ok ⟨rfl, hrest⟩
      · refine (agree_statement t h).andThen fun patterns _ _ hlt _ hrest => ?_
        exact (agree_templateParts t hrest).andThen fun _ _ _ _ _ hrest => .ok ⟨rfl, hrest⟩
  | number a b c text rest =>
    rw [templateParts]
    exact .error _ _
termination_by ts.length

theorem agree_template (t : Namespaces) (h : Unquoted n x ts us) :
    Agree n x (template t ts) (template t us) := by
  refine (agree_mark .openBrace _ h).andThen fun _ _ _ _ _ hrest => ?_
  exact (agree_templateParts t hrest).andThen fun _ _ _ _ _ hrest => .ok ⟨rfl, hrest⟩

end LinkedRaces.QueryParser
