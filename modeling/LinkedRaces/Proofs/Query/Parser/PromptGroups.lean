import LinkedRaces.Proofs.Query.Parser.PromptFilters
import LinkedRaces.Query.Parser.Groups

/-!
Patterns, groups and templates are read in time, and none of the tokens taken is the keyword WHERE.
-/

namespace LinkedRaces.QueryParser

def moreItems {α : Type} (item : TokenReader QueryError α) (a : α) : Tokens → Outcome (List α)
  | ⟨.mark .comma, _⟩ :: rest =>
    (plain (Tokens.commaSeparated item rest)).andThen fun as rest => .ok (a :: as, rest)
  | rest => .ok ([a], rest)

theorem moreItems_of_nextIsNot {α : Type} (item : TokenReader QueryError α) (a : α) {rest : Tokens}
    (h : NextIsNot (· = .mark .comma) rest) : moreItems item a rest = .ok ([a], rest) :=
  moreItems.eq_2 item a rest fun text rest heq => h _ (by rw [heq]; rfl) rfl

theorem plain_commaSeparated {α : Type} (item : TokenReader QueryError α) (ts : Tokens) :
    plain (Tokens.commaSeparated item ts) = (plain (item ts)).andThen (moreItems item) := by
  rw [Tokens.commaSeparated]
  refine plain_bind fun s => ?_
  obtain ⟨a, rest, h⟩ := s
  rcases next_mark_cases .comma rest with ⟨text, rest, rfl⟩ | hnext
  · rw [Tokens.skip?_mark, moreItems]
    exact plain_bind fun _ => rfl
  · rw [Tokens.skip?_of_nextIsNot hnext, moreItems_of_nextIsNot item a hnext]
    rfl

theorem prompt_commaSeparated {α : Type} {item : TokenReader QueryError α}
    (hitem : ∀ ts, Prompt NotWhere (fun us => plain (item us)) ts) (ts : Tokens) :
    Prompt NotWhere (fun us => plain (Tokens.commaSeparated item us)) ts := by
  simp only [plain_commaSeparated]
  refine (hitem ts).andThen fun a rest h => ?_
  have hlt := shorter_of_plain h
  rcases next_mark_cases .comma rest with ⟨text, rest, rfl⟩ | hnext
  · refine .skip (by simp) ?_ ((prompt_commaSeparated hitem rest).map (a :: ·))
    rintro ⟨_, _⟩ us ⟨⟩
    rfl
  · exact .stays fun us hus => moreItems_of_nextIsNot item a (nextIsNot_congr hnext hus)
termination_by ts.length
decreasing_by grind

def afterSemicolons {α : Type} (part : TokenReader QueryError (List α)) (atEnd : Tokens → Bool)
    (as : List α) (rest : Tokens) : Outcome (List α) :=
  if atEnd rest then .ok (as, rest)
  else (plain (Tokens.semicolonSeparated part atEnd rest)).andThen fun bs rest =>
    .ok (as ++ bs, rest)

def moreParts {α : Type} (part : TokenReader QueryError (List α)) (atEnd : Tokens → Bool)
    (as : List α) : Tokens → Outcome (List α)
  | ⟨.mark .semicolon, _⟩ :: rest =>
    afterSemicolons part atEnd as (rest.dropWhile (Tokens.isMark .semicolon))
  | rest => .ok (as, rest)

theorem moreParts_of_nextIsNot {α : Type} (part : TokenReader QueryError (List α))
    (atEnd : Tokens → Bool) (as : List α) {rest : Tokens}
    (h : NextIsNot (· = .mark .semicolon) rest) : moreParts part atEnd as rest = .ok (as, rest) :=
  moreParts.eq_2 part atEnd as rest fun text rest heq => h _ (by rw [heq]; rfl) rfl

theorem plain_semicolonSeparated {α : Type} (part : TokenReader QueryError (List α))
    (atEnd : Tokens → Bool) (ts : Tokens) :
    plain (Tokens.semicolonSeparated part atEnd ts) =
      (plain (part ts)).andThen (moreParts part atEnd) := by
  rw [Tokens.semicolonSeparated]
  refine plain_bind fun s => ?_
  obtain ⟨as, rest, h⟩ := s
  rcases next_mark_cases .semicolon rest with ⟨text, rest, rfl⟩ | hnext
  · rw [Tokens.skip?_mark]
    simp only [Option.map_some, Reading.skipAll, moreParts, afterSemicolons]
    split
    · rfl
    · exact plain_bind fun _ => rfl
  · rw [Tokens.skip?_of_nextIsNot hnext, moreParts_of_nextIsNot part atEnd as hnext]
    rfl

theorem prompt_semicolonSeparated {α : Type} {part : TokenReader QueryError (List α)}
    {atEnd : Tokens → Bool} (hpart : ∀ ts, Prompt NotWhere (fun us => plain (part us)) ts)
    (hend : ∀ {ts us}, NextAlike ts us → atEnd ts = atEnd us) (ts : Tokens) :
    Prompt NotWhere (fun us => plain (Tokens.semicolonSeparated part atEnd us)) ts := by
  simp only [plain_semicolonSeparated]
  refine (hpart ts).andThen fun as rest h => ?_
  have hlt := shorter_of_plain h
  rcases next_mark_cases .semicolon rest with ⟨text, rest, rfl⟩ | hnext
  · have hdrop := (List.dropWhile_suffix (Tokens.isMark .semicolon) (l := rest)).length_le
    refine .skip (by simp) ?_ (Prompt.skipMarks (G := afterSemicolons part atEnd as)
      (m := .semicolon) (by simp) ?_)
    · rintro ⟨_, _⟩ us ⟨⟩
      rfl
    · cases hatEnd : atEnd (rest.dropWhile (Tokens.isMark .semicolon)) with
      | true =>
        exact .stays (a := as) fun us hus => by simp [afterSemicolons, ← hend hus, hatEnd]
      | false =>
        refine .congr (fun us hus => ?_) ((prompt_semicolonSeparated hpart hend
          (rest.dropWhile (Tokens.isMark .semicolon))).map (as ++ ·))
        simp [afterSemicolons, ← hend hus, hatEnd]
  · exact .stays fun us hus => moreParts_of_nextIsNot part atEnd as (nextIsNot_congr hnext hus)
termination_by ts.length
decreasing_by grind

theorem glance_rejectPath : Glance rejectPath where
  congr {ts us} h := by
    cases ts with
    | nil => rw [h.nil_eq]
    | cons x rest =>
      obtain ⟨⟨_, _⟩, us, rfl, hy⟩ := h.exists_cons
      obtain ⟨tok, text⟩ := x
      cases tok <;> cases hy <;> rfl
  passes ts := by
    unfold rejectPath
    split
    · split
      · exact .inr ⟨List.cons_ne_nil _ _, _, rfl⟩
      · exact .inl rfl
    · exact .inl rfl

theorem prompt_predicateObjects (t : Namespaces) (s : Term) (ts : Tokens) :
    Prompt NotWhere (fun us => plain (predicateObjects t s us)) ts := by
  refine (prompt_predicate t ts).read
    (fun p rest => Except.bind (rejectPath rest) fun _ =>
      (plain (Tokens.commaSeparated (object t) rest)).andThen fun objects rest =>
        .ok (objects.map (⟨s, p, ·⟩), rest))
    (fun us r => plain_check (plain_bind fun _ => rfl)) fun p rest _ => ?_
  exact ((prompt_commaSeparated (prompt_object t) rest).map
    (List.map (TriplePattern.mk s p))).glance glance_rejectPath

theorem groupKeyword?_congr {x y : Token} (h : x.Alike y) : groupKeyword? x = groupKeyword? y :=
  congrArg groupKeywords.find? (funext h.isKeyword_eq)

theorem atStatementEnd_congr {ts us : Tokens} (h : NextAlike ts us) :
    atStatementEnd ts = atStatementEnd us := by
  cases ts with
  | nil => rw [h.nil_eq]
  | cons x rest =>
    obtain ⟨y, us, rfl, hy⟩ := h.exists_cons
    simp only [atStatementEnd, hy.beq_mark, hy.isKeyword_eq, groupKeyword?_congr hy]

def afterPatterns (patterns : List TriplePattern) : Tokens → Outcome (List TriplePattern)
  | ⟨.mark .dot, _⟩ :: rest => .ok (patterns, rest)
  | rest =>
    if atStatementEnd rest then .ok (patterns, rest) else .error (failure .statementEnd rest)

theorem afterPatterns_of_nextIsNot (patterns : List TriplePattern) {rest : Tokens}
    (h : NextIsNot (· = .mark .dot) rest) :
    afterPatterns patterns rest =
      if atStatementEnd rest then .ok (patterns, rest) else .error (failure .statementEnd rest) :=
  afterPatterns.eq_2 patterns rest fun text rest heq => h _ (by rw [heq]; rfl) rfl

theorem prompt_afterPatterns (patterns : List TriplePattern) (ts : Tokens) :
    Prompt NotWhere (afterPatterns patterns) ts := by
  rcases next_mark_cases .dot ts with ⟨text, rest, rfl⟩ | hnext
  · exact .headTaken (by simp) (by rintro ⟨_, _⟩ us ⟨⟩; rfl)
  · have hafter {us : Tokens} (hus : NextAlike ts us) := by
      have h := afterPatterns_of_nextIsNot patterns (nextIsNot_congr hnext hus)
      rwa [← atStatementEnd_congr hus] at h
    cases hend : atStatementEnd ts with
    | true => exact .stays (a := patterns) fun us hus => by simpa [hend] using hafter hus
    | false => exact .failsHere .statementEnd fun us hus => by simpa [hend] using hafter hus

theorem plain_statement (t : Namespaces) (ts : Tokens) :
    plain (statement t ts) = (plain (subject t ts)).andThen fun s rest =>
      (plain (predicates t s rest)).andThen afterPatterns := by
  refine plain_bind fun s => plain_bind fun s' => ?_
  obtain ⟨patterns, rest, h⟩ := s'
  simp only [Reading.andThen, Reading.followedBy, Reading.loosen, Reading.weaken]
  rcases next_mark_cases .dot rest with ⟨text, rest, rfl⟩ | hnext
  · rw [Tokens.skip?_mark]
    rfl
  · rw [Tokens.skip?_of_nextIsNot hnext, afterPatterns_of_nextIsNot patterns hnext]
    by_cases hend : atStatementEnd rest
    · simp only [hend, if_true, plain_pure]
    · simp only [hend, if_false, Bool.false_eq_true, plain_fail]

theorem prompt_statement (t : Namespaces) (ts : Tokens) :
    Prompt NotWhere (fun us => plain (statement t us)) ts := by
  simp only [plain_statement]
  exact (prompt_subject t ts).andThen fun s rest _ =>
    (prompt_semicolonSeparated (prompt_predicateObjects t s) atStatementEnd_congr rest).andThen
      fun patterns rest _ => prompt_afterPatterns patterns rest

theorem partStart_congr {x y : Token} (h : x.Alike y) : partStart x = partStart y := by
  simp only [partStart, h.eq_mark_iff, h.isKeyword_eq, groupKeyword?_congr h]

theorem notWhere_of_partStart {x : Token} (h : partStart x ≠ .triples) : NotWhere x :=
  Bool.eq_false_iff.2 fun hwhere => h (partStart_congr (alike_where hwhere))

theorem prompt_parts (t : Namespaces) (nested : Bool) (ts : Tokens) :
    Prompt NotWhere (fun us => plain (parts t nested us)) ts := by
  cases ts with
  | nil => exact .nil .groupEnd (by rw [parts]; rfl)
  | cons x rest =>
    have hstart {y : Located} (hy : x.token.Alike y.token) :
        partStart y.token = partStart x.token := (partStart_congr hy).symm
    cases hx : partStart x.token with
    | groupEnd =>
      refine .headTaken (a := Group.empty) (notWhere_of_partStart (by simp [hx])) fun y us hy => ?_
      rw [parts.eq_def]
      simp only [hstart hy, hx, plain_took]
    | dot =>
      refine .skip (notWhere_of_partStart (by simp [hx])) (fun y us hy => ?_)
        (prompt_parts t nested rest)
      rw [parts.eq_def]
      simp only [hstart hy, hx]
      exact plain_same fun _ => rfl
    | group =>
      refine .refusesHere .nestedGroups fun y us hy => ?_
      rw [parts.eq_def]
      simp only [hstart hy, hx, plain_refuse]
    | optional =>
      cases nested with
      | true =>
        refine .refusesHere .nestedOptionals fun y us hy => ?_
        rw [parts.eq_def]
        simp only [hstart hy, hx, if_true, plain_refuse]
      | false =>
        refine .skip (notWhere_of_partStart (by simp [hx])) (fun y us hy => ?_)
          ((prompt_mark .openBrace .groupStart rest).andThen
            (K := fun _ rest => (plain (parts t true rest)).andThen fun inner rest =>
              (plain (parts t false rest)).andThen fun g rest =>
                .ok ({ g with optionals := ⟨inner.required, inner.filters⟩ :: g.optionals }, rest))
            fun _ rest₁ h₁ => ?_)
        · rw [parts.eq_def]
          simp only [hstart hy, hx, Bool.false_eq_true, if_false]
          exact plain_bind fun _ => plain_bind fun _ => plain_bind fun _ => rfl
        · have hlt₁ := shorter_of_plain h₁
          refine (prompt_parts t true rest₁).andThen fun inner rest₂ h₂ => ?_
          have hlt₂ := shorter_of_plain h₂
          exact (prompt_parts t false rest₂).map fun g =>
            { g with optionals := ⟨inner.required, inner.filters⟩ :: g.optionals }
    | filter =>
      refine .skip (notWhere_of_partStart (by simp [hx])) (fun y us hy => ?_)
        ((prompt_constraint t rest).andThen
          (K := fun e rest => (plain (parts t nested rest)).andThen fun g rest =>
            .ok ({ g with filters := e :: g.filters }, rest)) fun e rest₁ h₁ => ?_)
      · rw [parts.eq_def]
        simp only [hstart hy, hx]
        exact plain_bind fun _ => plain_bind fun _ => rfl
      · have hlt₁ := shorter_of_plain h₁
        exact (prompt_parts t nested rest₁).map fun g => { g with filters := e :: g.filters }
    | unsupported keyword =>
      refine .refusesHere (.groupKeyword keyword) fun y us hy => ?_
      rw [parts.eq_def]
      simp only [hstart hy, hx, plain_refuse]
    | triples =>
      refine .head (fun y us hy => ?_) ((prompt_statement t (x :: rest)).andThen
        (K := fun patterns rest => (plain (parts t nested rest)).andThen fun g rest =>
          .ok ({ g with required := patterns ++ g.required }, rest)) fun patterns rest₁ h₁ => ?_)
      · rw [parts.eq_def]
        simp only [hstart hy, hx]
        exact plain_bind fun _ => plain_bind fun _ => rfl
      · have hlt₁ := shorter_of_plain h₁
        exact (prompt_parts t nested rest₁).map fun g =>
          { g with required := patterns ++ g.required }
termination_by ts.length
decreasing_by all_goals grind

theorem prompt_group (t : Namespaces) (ts : Tokens) :
    Prompt NotWhere (fun us => plain (group t us)) ts :=
  (prompt_mark .openBrace .groupStart ts).read (fun _ rest => plain (parts t false rest))
    (fun _ _ => plain_same fun _ => rfl) fun _ rest _ => prompt_parts t false rest

theorem prompt_templateParts (t : Namespaces) (ts : Tokens) :
    Prompt NotWhere (fun us => plain (templateParts t us)) ts := by
  cases ts with
  | nil => exact .nil .templateEnd (by rw [templateParts]; rfl)
  | cons x rest =>
    by_cases hclose : x.token = .mark .closeBrace
    · refine .headTaken (a := []) (by simp [hclose]) fun y us hy => ?_
      rw [templateParts.eq_def]
      simp only [(hy.eq_mark_iff _).1 hclose, if_true, plain_took]
    by_cases hdot : x.token = .mark .dot
    · refine .skip (by simp [hdot]) (fun y us hy => ?_) (prompt_templateParts t rest)
      rw [templateParts.eq_def]
      simp only [(hy.eq_mark_iff _).1 hdot, reduceCtorEq, Token.mark.injEq, if_true, if_false]
      exact plain_same fun _ => rfl
    refine .head (fun y us hy => ?_) ((prompt_statement t (x :: rest)).andThen
      (K := fun patterns rest => (plain (templateParts t rest)).andThen fun more rest =>
        .ok (patterns ++ more, rest)) fun patterns rest₁ h₁ => ?_)
    · rw [templateParts.eq_def]
      simp only [← hy.eq_mark_iff, hclose, hdot, if_false]
      exact plain_bind fun _ => plain_bind fun _ => rfl
    · have hlt₁ := shorter_of_plain h₁
      exact (prompt_templateParts t rest₁).map (patterns ++ ·)
termination_by ts.length
decreasing_by all_goals grind

theorem prompt_template (t : Namespaces) (ts : Tokens) :
    Prompt NotWhere (fun us => plain (template t us)) ts :=
  (prompt_mark .openBrace .templateStart ts).read (fun _ rest => plain (templateParts t rest))
    (fun _ _ => plain_same fun _ => rfl) fun _ rest _ => prompt_templateParts t rest

end LinkedRaces.QueryParser
