import LinkedRaces.Proofs.Query.Parser.Filters
import LinkedRaces.Proofs.Query.Parser.Prompt

/-!
Terms and conditions are read in time: what is taken, and where it fails, is settled by the tokens
taken and the next one. None of the tokens taken is the keyword WHERE.
-/

namespace LinkedRaces.QueryParser

def NotWhere (x : Token) : Prop := x.isKeyword "WHERE" = false

@[simp] theorem notWhere_of_not_word {x : Token} (h : ∀ word, x ≠ .word word) : NotWhere x := by
  cases x with
  | word text => exact absurd rfl (h text)
  | _ => rfl

theorem alike_where {x : Token} (h : x.isKeyword "WHERE") : x.Alike (.word "WHERE") := by
  cases x with
  | word text => exact Token.Alike.symm (.word (Text.eqIgnoringCase_iff.2
      (Text.eqIgnoringCase_iff.1 h).symm) (by decide))
  | _ => cases h

theorem notWhere_of_isKeyword {x : Token} {keyword : String} (h : x.isKeyword keyword)
    (hne : (Token.word "WHERE").isKeyword keyword = false) : NotWhere x := by
  refine Bool.eq_false_iff.2 fun hwhere => ?_
  rw [(alike_where hwhere).isKeyword_eq, hne] at h
  cases h

variable {t : Namespaces} {ts : Tokens}

theorem prompt_mark (m : Mark) (fault : QueryFault) (ts : Tokens) :
    Prompt NotWhere (fun us => plain (mark m fault us)) ts := by
  cases ts with
  | nil => exact .nil fault rfl
  | cons x rest =>
    by_cases hx : x.token = .mark m
    · refine .headTaken (a := ()) (by simp [hx]) fun y us hy => ?_
      simp [mark, Tokens.mark, (hy.eq_mark_iff m).1 hx]
    · refine .headFails fault fun y us hy => ?_
      have hy : y.token ≠ .mark m := fun h => hx ((hy.eq_mark_iff m).2 h)
      simp [mark, Tokens.mark, hy, plain, Except.map]

theorem Prompt.closedBy {α : Type} {F : Tokens → Outcome α} (h : Prompt NotWhere F ts) (m : Mark)
    (fault : QueryFault) :
    Prompt NotWhere (fun us => Outcome.andThen (F us) fun a rest =>
      (plain (mark m fault rest)).andThen fun _ rest => .ok (a, rest)) ts :=
  h.andThen fun a rest _ => (prompt_mark m fault rest).map fun _ => a

theorem prompt_iri (t : Namespaces) (ts : Tokens) :
    Prompt NotWhere (fun us => plain (iri t us)) ts := by
  cases ts with
  | nil => exact .nil .iri rfl
  | cons x rest =>
    obtain ⟨tok, text⟩ := x
    cases tok with
    | iri body => exact .headTaken (by simp) (by rintro ⟨_, _⟩ us ⟨⟩; rfl)
    | prefixed label name =>
      cases h : t.expand? label name with
      | some i => exact .headTaken (a := i) (by simp) (by rintro ⟨_, _⟩ us ⟨⟩; simp [iri, h])
      | none => exact .headFails (.unknownPrefix label) (by rintro ⟨_, _⟩ us ⟨⟩; simp [iri, h])
    | word word => exact .headFails .iri (by rintro ⟨_, _⟩ us (_ | _) <;> rfl)
    | _ => exact .headFails .iri (by rintro ⟨_, _⟩ us ⟨⟩; rfl)

theorem prompt_term {α : Type} (f : Iri → α) (t : Namespaces) (ts : Tokens) :
    Prompt NotWhere (fun us => plain (do return (← iri t us).map f : Result α us)) ts :=
  (prompt_iri t ts).readMap f fun _ _ => rfl

theorem shorthand?_congr {x y : Token} (h : x.Alike y) : x.shorthand? = y.shorthand? := by
  cases h with
  | refl => rfl
  | word letters free =>
    have hfree := free.congr letters
    simp [Token.shorthand?, free.ne, hfree.ne]

theorem notWhere_of_shorthand? {x : Token} {l : Literal} (h : x.shorthand? = some l) :
    NotWhere x := by
  cases x with
  | word text =>
    by_cases hword : text = "true" ∨ text = "false"
    · rcases hword with rfl | rfl <;> rfl
    · simp [Token.shorthand?, hword] at h
  | _ => rfl

theorem prompt_quoted (t : Namespaces) (value : String) (x : Located) (ts : Tokens) :
    Prompt NotWhere (fun us => plain (Tokens.quoted (iri t) value x us)) ts := by
  cases ts with
  | nil => exact .stays fun us hus => by rw [hus.nil_eq]; rfl
  | cons y rest =>
    obtain ⟨tok, text⟩ := y
    cases tok with
    | tag tag => exact .headTaken (by simp) (by rintro ⟨_, _⟩ us ⟨⟩; rfl)
    | word word =>
      exact .headStays (a := Literal.plain value) (by rintro ⟨_, _⟩ us (_ | _) <;> rfl)
    | mark m =>
      by_cases hm : m = .doubleCaret
      · subst hm
        refine .skip
          (G := fun us => plain (do return (← iri t us).map (.typed value) : Result _ us))
          (by simp) ?_ (prompt_term _ t rest)
        rintro ⟨_, _⟩ us ⟨⟩
        simp only [Tokens.quoted]
        cases iri t us <;> rfl
      · refine .headStays (a := Literal.plain value) ?_
        rintro ⟨_, _⟩ us ⟨⟩
        simp [Tokens.quoted, hm]
    | _ => exact .headStays (a := Literal.plain value) (by rintro ⟨_, _⟩ us ⟨⟩; rfl)

theorem literal_of_not_string {x : Located} {rest : Tokens} (fault : QueryFault)
    (hstring : ∀ value, x.token ≠ .string value) (h : x.token.shorthand? = none) :
    literal t fault (x :: rest) = fail fault (x :: rest) := by
  obtain ⟨tok, text⟩ := x
  cases tok with
  | string value => exact absurd rfl (hstring value)
  | _ => simp_all [literal]

theorem prompt_literal (t : Namespaces) (fault : QueryFault) (ts : Tokens) :
    Prompt NotWhere (fun us => plain (literal t fault us)) ts := by
  cases ts with
  | nil => exact .nil fault rfl
  | cons x rest =>
    by_cases hstring : ∃ value, x.token = .string value
    · obtain ⟨value, hvalue⟩ := hstring
      refine .skip (by simp [hvalue]) ?_ (prompt_quoted t value x rest)
      rintro ⟨_, _⟩ us hy
      rw [hvalue] at hy
      cases hy
      rfl
    · cases hl : x.token.shorthand? with
      | some l =>
        refine .headTaken (a := l) (notWhere_of_shorthand? hl) fun y us hy => ?_
        rw [literal_of_shorthand (shorthand?_congr hy ▸ hl), plain_took]
      | none =>
        refine .headFails fault fun y us hy => ?_
        have hy' (value : String) (h : y.token = .string value) : False :=
          hstring ⟨value, (hy.symm.eq_of_not_word (by simp [h])).trans h⟩
        rw [literal_of_not_string fault hy' (shorthand?_congr hy ▸ hl), plain_fail]

theorem prompt_subject (t : Namespaces) (ts : Tokens) :
    Prompt NotWhere (fun us => plain (subject t us)) ts := by
  cases ts with
  | nil => exact .nil .subject rfl
  | cons x rest =>
    obtain ⟨tok, text⟩ := x
    cases tok with
    | var name => exact .headTaken (by simp) (by rintro ⟨_, _⟩ us ⟨⟩; rfl)
    | iri _ | «prefixed» =>
      exact .head (by rintro ⟨_, _⟩ us ⟨⟩; rfl) (prompt_term .iri t _)
    | blank _ => exact .refusesHere .blankNodes (by rintro ⟨_, _⟩ us ⟨⟩; rfl)
    | string _ | integer _ | decimal _ | double _ =>
      exact .headFails .literalSubject (by rintro ⟨_, _⟩ us ⟨⟩; rfl)
    | word _ => exact .headFails .subject (by rintro ⟨_, _⟩ us (_ | _) <;> rfl)
    | tag _ => exact .headFails .subject (by rintro ⟨_, _⟩ us ⟨⟩; rfl)
    | mark m =>
      cases m with
      | openBracket => exact .refusesHere .blankNodes (by rintro ⟨_, _⟩ us ⟨⟩; rfl)
      | _ => exact .headFails .subject (by rintro ⟨_, _⟩ us ⟨⟩; rfl)

theorem prompt_predicate (t : Namespaces) (ts : Tokens) :
    Prompt NotWhere (fun us => plain (predicate t us)) ts := by
  cases ts with
  | nil => exact .nil .predicate rfl
  | cons x rest =>
    obtain ⟨tok, text⟩ := x
    cases tok with
    | var name => exact .headTaken (by simp) (by rintro ⟨_, _⟩ us ⟨⟩; rfl)
    | iri _ | «prefixed» =>
      exact .head (by rintro ⟨_, _⟩ us ⟨⟩; rfl) (prompt_term .iri t _)
    | word word =>
      by_cases hword : word = "a"
      · subst hword
        refine .headTaken (a := .iri Vocabulary.rdfType) rfl ?_
        rintro ⟨_, _⟩ us (_ | ⟨_, hfree⟩)
        · rfl
        · exact absurd rfl (hfree.ne (by simp))
      · refine .headFails .predicate ?_
        rintro ⟨_, _⟩ us (_ | ⟨hletters, hfree⟩)
        · simp [predicate, hword]
        · simp [predicate, (hfree.congr hletters).ne]
    | mark m =>
      cases m with
      | caret | bang | openParen =>
        exact .refusesHere .propertyPaths (by rintro ⟨_, _⟩ us ⟨⟩; rfl)
      | _ => exact .headFails .predicate (by rintro ⟨_, _⟩ us ⟨⟩; rfl)
    | _ => exact .headFails .predicate (by rintro ⟨_, _⟩ us ⟨⟩; rfl)

theorem prompt_value {α : Type} (f : Literal → α) (t : Namespaces) (fault : QueryFault)
    (ts : Tokens) :
    Prompt NotWhere (fun us => plain (do return (← literal t fault us).map f : Result α us)) ts :=
  (prompt_literal t fault ts).readMap f fun _ _ => rfl

theorem prompt_object (t : Namespaces) (ts : Tokens) :
    Prompt NotWhere (fun us => plain (object t us)) ts := by
  cases ts with
  | nil => exact .nil .object rfl
  | cons x rest =>
    obtain ⟨tok, text⟩ := x
    cases tok with
    | var name => exact .headTaken (by simp) (by rintro ⟨_, _⟩ us ⟨⟩; rfl)
    | iri _ | «prefixed» =>
      exact .head (by rintro ⟨_, _⟩ us ⟨⟩; rfl) (prompt_term .iri t _)
    | blank _ => exact .refusesHere .blankNodes (by rintro ⟨_, _⟩ us ⟨⟩; rfl)
    | mark m =>
      cases m with
      | openBracket => exact .refusesHere .blankNodes (by rintro ⟨_, _⟩ us ⟨⟩; rfl)
      | openParen => exact .refusesHere .collections (by rintro ⟨_, _⟩ us ⟨⟩; rfl)
      | _ => exact .head (by rintro ⟨_, _⟩ us ⟨⟩; rfl) (prompt_value .literal t .object _)
    | word _ =>
      exact .head (by rintro ⟨_, _⟩ us (_ | _) <;> rfl) (prompt_value .literal t .object _)
    | _ => exact .head (by rintro ⟨_, _⟩ us ⟨⟩; rfl) (prompt_value .literal t .object _)

theorem glance_rejectArithmetic : Glance rejectArithmetic where
  congr {ts us} h := by
    cases ts with
    | nil => rw [h.nil_eq]
    | cons x rest =>
      obtain ⟨⟨_, _⟩, us, rfl, hy⟩ := h.exists_cons
      obtain ⟨tok, text⟩ := x
      cases tok <;> cases hy <;> rfl
  passes ts := by
    unfold rejectArithmetic
    split
    · split
      · exact .inr ⟨List.cons_ne_nil _ _, _, rfl⟩
      · exact .inl rfl
    · exact .inl rfl

theorem prompt_stringArgument (fault : QueryFault) (ts : Tokens) :
    Prompt NotWhere (fun us => plain (stringArgument fault us)) ts := by
  cases ts with
  | nil => exact .nil fault rfl
  | cons x rest =>
    obtain ⟨tok, text⟩ := x
    cases tok with
    | string value => exact .headTaken (by simp) (by rintro ⟨_, _⟩ us ⟨⟩; rfl)
    | word _ => exact .headFails fault (by rintro ⟨_, _⟩ us (_ | _) <;> rfl)
    | _ => exact .headFails fault (by rintro ⟨_, _⟩ us ⟨⟩; rfl)

theorem prompt_textPattern (pattern flags : String) (target : Expression) (ts : Tokens) :
    Prompt NotWhere (fun us => (textPattern pattern flags us).map (Expression.regex target ·, us))
      ts := by
  unfold textPattern
  split
  next c _ => exact .failsHere (.regexFlag c) fun _ _ => rfl
  next =>
    split
    next p _ => exact .stays (a := .regex target p) fun _ _ => rfl
    next fault _ => exact .failsHere (.regex fault pattern) fun _ _ => rfl

def flagsArgument (target : Expression) (pattern : String) : Tokens → Outcome Expression
  | ⟨.mark .comma, _⟩ :: rest => (plain (stringArgument .regexFlags rest)).andThen fun flags rest =>
    (textPattern pattern flags rest).map (Expression.regex target ·, rest)
  | rest => (textPattern pattern "" rest).map (Expression.regex target ·, rest)

theorem flagsArgument_of_nextIsNot (target : Expression) (pattern : String) {rest : Tokens}
    (h : NextIsNot (· = .mark .comma) rest) :
    flagsArgument target pattern rest =
      (textPattern pattern "" rest).map (Expression.regex target ·, rest) :=
  flagsArgument.eq_2 target pattern rest fun text rest heq => h _ (by rw [heq]; rfl) rfl

theorem prompt_flagsArgument (target : Expression) (pattern : String) (ts : Tokens) :
    Prompt NotWhere (flagsArgument target pattern) ts := by
  rcases next_mark_cases .comma ts with ⟨text, rest, rfl⟩ | hnext
  · refine .skip (by simp) ?_ ((prompt_stringArgument .regexFlags rest).andThen fun flags rest _ =>
      prompt_textPattern pattern flags target rest)
    rintro ⟨_, _⟩ us ⟨⟩
    rfl
  · exact (prompt_textPattern pattern "" target ts).congr fun us hus =>
      flagsArgument_of_nextIsNot target pattern (nextIsNot_congr hnext hus)

theorem plain_regexArguments (target : Expression) (ts : Tokens) :
    plain (regexArguments target ts) =
      (plain (mark .comma (.callComma "regex") ts)).andThen fun _ rest =>
        (plain (stringArgument .regexPattern rest)).andThen (flagsArgument target) := by
  refine plain_bind fun s => plain_bind fun s' => ?_
  obtain ⟨pattern, rest, h⟩ := s'
  dsimp only
  split
  · rw [flagsArgument]
    refine plain_bind fun s'' => ?_
    cases textPattern pattern s''.value s''.rest <;> rfl
  next hnext =>
    have hnext : NextIsNot (· = .mark .comma) rest := by
      rintro ⟨_, text⟩ hx rfl
      obtain ⟨tail, rfl⟩ := List.head?_eq_some_iff.1 hx
      exact hnext text tail h rfl HEq.rfl
    rw [flagsArgument_of_nextIsNot target pattern hnext]
    cases textPattern pattern "" rest <;> rfl

theorem prompt_regexArguments (target : Expression) (ts : Tokens) :
    Prompt NotWhere (fun us => plain (regexArguments target us)) ts := by
  simp only [plain_regexArguments]
  exact (prompt_mark .comma _ ts).andThen fun _ rest _ =>
    (prompt_stringArgument .regexPattern rest).andThen fun pattern rest _ =>
      prompt_flagsArgument target pattern rest

def afterOperand (t : Namespaces) (left : Expression) : Tokens → Outcome Expression
  | [] => .ok (left, [])
  | x :: rest =>
    match x.token with
    | .mark m =>
      match comparison? m with
      | some op => (plain (operand t rest)).andThen fun right rest =>
        Except.bind (rejectArithmetic rest) fun _ => .ok (.compare op left right, rest)
      | none => .ok (left, x :: rest)
    | token =>
      if token.isKeyword "IN" || token.isKeyword "NOT" then .error (.unsupported .membership)
      else .ok (left, x :: rest)

def afterName (t : Namespaces) (name : String) : Tokens → Outcome Expression
  | [] => .error (failure (.callStart name) [])
  | paren :: rest =>
    if paren.token = .mark .openParen then
      (plain (arguments t name paren rest)).andThen fun e rest =>
        (plain (mark .closeParen (.callEnd name) rest)).andThen fun _ rest => .ok (e, rest)
    else .error (failure (.callStart name) (paren :: rest))

/-- A call from its name on; there is a name wherever it is used. -/
def callFrom (t : Namespaces) (word : String) : Tokens → Outcome Expression
  | [] => .error (failure .expression [])
  | x :: rest => plain (call t word x rest)

def argumentsFrom (t : Namespaces) (name : String) : Tokens → Outcome Expression
  | [] => .error (failure (.callStart name) [])
  | paren :: rest => plain (arguments t name paren rest)

theorem afterOperand_of_not_mark {x : Located} {rest : Tokens} (left : Expression)
    (h : ∀ m, x.token ≠ .mark m) :
    afterOperand t left (x :: rest) =
      if x.token.isKeyword "IN" || x.token.isKeyword "NOT" then .error (.unsupported .membership)
      else .ok (left, x :: rest) := by
  obtain ⟨tok, text⟩ := x
  cases tok with
  | mark m => exact absurd rfl (h m)
  | _ => rfl

theorem plain_relation (t : Namespaces) (ts : Tokens) :
    plain (relation t ts) = (plain (operand t ts)).andThen fun left rest =>
      Except.bind (rejectArithmetic rest) fun _ => afterOperand t left rest := by
  rw [relation]
  refine plain_bind fun s => plain_check ?_
  obtain ⟨left, rest, h⟩ := s
  cases rest with
  | nil => rfl
  | cons x rest =>
    obtain ⟨tok, text⟩ := x
    cases tok with
    | mark m =>
      cases hop : comparison? m with
      | some op =>
        simp only [afterOperand, hop]
        exact plain_bind fun s => plain_check rfl
      | none => simp only [afterOperand, hop, plain_ok]
    | _ =>
      rw [afterOperand_of_not_mark left (by simp)]
      dsimp only
      split <;> rfl

theorem plain_call (t : Namespaces) (word : String) (x : Located) (ts : Tokens)
    (haggregate : aggregates.contains (Text.lowercase word) = false)
    (hexists : ¬ (Text.lowercase word = "exists" ∨ Text.lowercase word = "not")) :
    plain (call t word x ts) = afterName t (Text.lowercase word) ts := by
  rw [call.eq_def]
  simp only [haggregate, hexists, Bool.false_eq_true, if_false]
  cases ts with
  | nil => rfl
  | cons paren rest =>
    by_cases hparen : paren.token = .mark .openParen
    · simp only [afterName, hparen, ne_eq, not_true_eq_false, if_false, if_true]
      exact plain_bind fun s => plain_bind fun s' => rfl
    · simp only [afterName, hparen, ne_eq, not_false_eq_true, if_true, if_false]
      rfl

theorem operand_word (t : Namespaces) {word : String} (h : ¬ (word = "true" ∨ word = "false"))
    (text : List Char) (rest : Tokens) :
    operand t (⟨.word word, text⟩ :: rest) = call t word ⟨.word word, text⟩ rest := by
  rw [operand.eq_def]
  simp only [h, if_false]

theorem call_congr (t : Namespaces) {a b : String} (h : Text.lowercase a = Text.lowercase b)
    (x : Located) (ts : Tokens) : call t a x ts = call t b x ts := by
  rw [call.eq_def, call.eq_def, h]

theorem afterName_where (t : Namespaces) (ts : Tokens) (p : Expression × Tokens) :
    afterName t "where" ts ≠ .ok p := by
  cases ts with
  | nil => exact nofun
  | cons paren rest =>
    by_cases hparen : paren.token = .mark .openParen
    · rw [afterName, if_pos hparen, arguments.eq_def]
      intro h
      cases h
    · simp [afterName, hparen]

theorem prompt_boundArgument (t : Namespaces) (paren : Located) (ts : Tokens)
    (hparen : paren.token = .mark .openParen) :
    Prompt NotWhere (argumentsFrom t "bound") (paren :: ts) := by
  refine .after (E := fun y us => plain (boundArgument y us)) (by simp [hparen])
    (hparen ▸ .boundVariable) (fun y us _ => ?_) (fun _ => rfl) (fun y y' ⟨tok, text⟩ us => ?_)
    fun ⟨tok, text⟩ us => ?_
  · rw [argumentsFrom, arguments.eq_def]
    rfl
  · cases tok <;> rfl
  · cases tok with
    | var name => exact .headTaken (by simp) (by rintro ⟨_, _⟩ us ⟨⟩; rfl)
    | word _ => exact .headFails .boundVariable (by rintro ⟨_, _⟩ us (_ | _) <;> rfl)
    | _ => exact .headFails .boundVariable (by rintro ⟨_, _⟩ us ⟨⟩; rfl)

-- The recursion is that of the readers: a level calls the next one on the same tokens, so that the
-- measure has the levels behind the number of tokens.
mutual

theorem prompt_disjunction (t : Namespaces) (ts : Tokens) :
    Prompt NotWhere (fun us => plain (disjunction t us)) ts := by
  simp only [disjunction]
  exact (prompt_conjunction t ts).read (fun e rest => plain (disjuncts t e rest))
    (fun us s => plain_same fun _ => rfl) fun e rest h => prompt_disjuncts t e rest
termination_by (ts.length, 6)

theorem prompt_disjuncts (t : Namespaces) (left : Expression) (ts : Tokens) :
    Prompt NotWhere (fun us => plain (disjuncts t left us)) ts := by
  rcases next_mark_cases .or ts with ⟨text, rest, rfl⟩ | hnext
  · refine .skip (by simp) ?_ ((prompt_conjunction t rest).andThen
      (K := fun right rest => plain (disjuncts t (.or left right) rest)) fun right rest' h => ?_)
    · rintro ⟨_, _⟩ us ⟨⟩
      rw [disjuncts]
      exact plain_bind fun s => plain_same fun _ => rfl
    · have hlt := shorter_of_plain h
      exact prompt_disjuncts t (.or left right) rest'
  · refine .stays (a := left) fun us hus => ?_
    rw [disjuncts_of_nextIsNot left (nextIsNot_congr hnext hus)]
    rfl
termination_by (ts.length, 0)
decreasing_by all_goals grind

theorem prompt_conjunction (t : Namespaces) (ts : Tokens) :
    Prompt NotWhere (fun us => plain (conjunction t us)) ts := by
  simp only [conjunction]
  exact (prompt_negation t ts).read (fun e rest => plain (conjuncts t e rest))
    (fun us s => plain_same fun _ => rfl) fun e rest h => prompt_conjuncts t e rest
termination_by (ts.length, 5)

theorem prompt_conjuncts (t : Namespaces) (left : Expression) (ts : Tokens) :
    Prompt NotWhere (fun us => plain (conjuncts t left us)) ts := by
  rcases next_mark_cases .and ts with ⟨text, rest, rfl⟩ | hnext
  · refine .skip (by simp) ?_ ((prompt_negation t rest).andThen
      (K := fun right rest => plain (conjuncts t (.and left right) rest)) fun right rest' h => ?_)
    · rintro ⟨_, _⟩ us ⟨⟩
      rw [conjuncts]
      exact plain_bind fun s => plain_same fun _ => rfl
    · have hlt := shorter_of_plain h
      exact prompt_conjuncts t (.and left right) rest'
  · refine .stays (a := left) fun us hus => ?_
    rw [conjuncts_of_nextIsNot left (nextIsNot_congr hnext hus)]
    rfl
termination_by (ts.length, 0)
decreasing_by all_goals grind

theorem prompt_negation (t : Namespaces) (ts : Tokens) :
    Prompt NotWhere (fun us => plain (negation t us)) ts := by
  rcases next_mark_cases .bang ts with ⟨text, rest, rfl⟩ | hnext
  · refine .skip (by simp) ?_ ((prompt_negation t rest).map .not)
    rintro ⟨_, _⟩ us ⟨⟩
    rw [negation]
    exact plain_bind fun _ => rfl
  · refine (prompt_relation t ts).congr fun us hus => ?_
    rw [negation_of_nextIsNot (nextIsNot_congr hnext hus)]
termination_by (ts.length, 4)
decreasing_by all_goals grind

theorem prompt_relation (t : Namespaces) (ts : Tokens) :
    Prompt NotWhere (fun us => plain (relation t us)) ts := by
  simp only [plain_relation]
  refine (prompt_operand t ts).andThen fun left rest h => ?_
  have hlt := shorter_of_plain h
  exact (prompt_afterOperand t left rest).glance glance_rejectArithmetic
termination_by (ts.length, 3)

theorem prompt_afterOperand (t : Namespaces) (left : Expression) (ts : Tokens) :
    Prompt NotWhere (afterOperand t left) ts := by
  cases ts with
  | nil => exact .stays fun us hus => by rw [hus.nil_eq]; rfl
  | cons x rest =>
    by_cases hmark : ∃ m, x.token = .mark m
    · obtain ⟨tok, text⟩ := x
      obtain ⟨m, rfl⟩ := hmark
      cases hop : comparison? m with
      | some op =>
        refine .skip (by simp) ?_ ((prompt_operand t rest).andThen
          (K := fun right rest => Except.bind (rejectArithmetic rest) fun _ =>
            .ok (.compare op left right, rest))
          fun _ _ _ => (Prompt.stays fun _ _ => rfl).glance glance_rejectArithmetic)
        rintro ⟨_, _⟩ us ⟨⟩
        simp only [afterOperand, hop]
      | none =>
        exact .headStays (a := left) (by rintro ⟨_, _⟩ us ⟨⟩; simp only [afterOperand, hop])
    · have hnot {y : Located} (hy : x.token.Alike y.token) (m : Mark) : y.token ≠ .mark m :=
        fun h => hmark ⟨m, (hy.eq_mark_iff m).2 h⟩
      cases hword : x.token.isKeyword "IN" || x.token.isKeyword "NOT" with
      | true =>
        refine .refusesHere .membership fun y us hy => ?_
        rw [afterOperand_of_not_mark left (hnot hy), ← hy.isKeyword_eq, ← hy.isKeyword_eq, hword]
        rfl
      | false =>
        refine .headStays (a := left) fun y us hy => ?_
        rw [afterOperand_of_not_mark left (hnot hy), ← hy.isKeyword_eq, ← hy.isKeyword_eq, hword]
        rfl
termination_by (ts.length, 0)

theorem prompt_operand (t : Namespaces) (ts : Tokens) :
    Prompt NotWhere (fun us => plain (operand t us)) ts := by
  cases ts with
  | nil => exact .nil .expression (by rw [operand]; rfl)
  | cons x rest =>
    obtain ⟨tok, text⟩ := x
    cases tok with
    | var name => exact .headTaken (by simp) (by rintro ⟨_, _⟩ us ⟨⟩; rw [operand]; rfl)
    | iri _ | «prefixed» =>
      exact .head (by rintro ⟨_, _⟩ us ⟨⟩; rw [operand.eq_def]) (prompt_term (.const ∘ .iri) t _)
    | word word =>
      by_cases hword : word = "true" ∨ word = "false"
      · refine .head ?_ (prompt_value (.const ∘ .literal) t .expression _)
        rintro ⟨_, _⟩ us (_ | ⟨_, hfree⟩)
        · rw [operand.eq_def]
          simp only [hword, if_true]
        · exact (hword.elim (hfree.ne (by simp)) (hfree.ne (by simp))).elim
      · refine .head ?_ (prompt_callFrom t word text rest)
        rintro ⟨_, _⟩ us (_ | ⟨hletters, hfree⟩)
        · rw [operand_word t hword]
          rfl
        · have hfree := hfree.congr hletters
          rw [operand_word t (by simp [hfree.ne]), callFrom,
            call_congr t (Text.lowercase_congr hletters)]
    | mark m =>
      by_cases hparen : m = .openParen
      · subst hparen
        refine .skip (by simp) ?_ ((prompt_disjunction t rest).closedBy .closeParen .parenEnd)
        rintro ⟨_, _⟩ us ⟨⟩
        rw [operand.eq_def]
        exact plain_bind fun s => plain_bind fun s' => rfl
      · refine .head ?_ (prompt_value (.const ∘ .literal) t .expression _)
        rintro ⟨_, _⟩ us ⟨⟩
        rw [operand.eq_def]
        cases m with
        | openParen => exact absurd rfl hparen
        | _ => rfl
    | _ =>
      exact .head (by rintro ⟨_, _⟩ us ⟨⟩; rw [operand.eq_def])
        (prompt_value (.const ∘ .literal) t .expression _)
termination_by (ts.length, 2)

theorem prompt_callFrom (t : Namespaces) (word : String) (text : List Char) (ts : Tokens) :
    Prompt NotWhere (callFrom t word) (⟨.word word, text⟩ :: ts) := by
  cases haggregate : aggregates.contains (Text.lowercase word) with
  | true =>
    refine .refusesHere .aggregates fun y us _ => ?_
    rw [callFrom, call.eq_def]
    simp only [haggregate, if_true, plain_refuse]
  | false =>
    by_cases hexists : Text.lowercase word = "exists" ∨ Text.lowercase word = "not"
    · refine .refusesHere .exists_ fun y us _ => ?_
      rw [callFrom, call.eq_def]
      simp only [haggregate, Bool.false_eq_true, if_false, hexists, if_true, plain_refuse]
    · refine .cons (fun p hp => ?_) (fun y us _ _ => plain_call t word y us haggregate hexists)
        (prompt_afterName t (Text.lowercase word) ts)
      -- A function named WHERE would be taken too, but there is none.
      refine Bool.eq_false_iff.2 fun hwhere => ?_
      rw [Text.lowercase_congr hwhere] at hp
      exact afterName_where t ts p hp
termination_by (ts.length + 1, 1)

theorem prompt_afterName (t : Namespaces) (name : String) (ts : Tokens) :
    Prompt NotWhere (afterName t name) ts := by
  cases ts with
  | nil => exact .nil (.callStart name) rfl
  | cons paren rest =>
    by_cases hparen : paren.token = .mark .openParen
    · refine .head (fun y us hy => ?_)
        ((prompt_argumentsFrom t name paren rest hparen).closedBy .closeParen (.callEnd name))
      rw [afterName, if_pos ((hy.eq_mark_iff _).1 hparen)]
      rfl
    · refine .headFails (.callStart name) fun y us hy => ?_
      rw [afterName, if_neg fun h => hparen ((hy.eq_mark_iff _).2 h)]
termination_by (ts.length, 8)

theorem prompt_argumentsFrom (t : Namespaces) (name : String) (paren : Located) (ts : Tokens)
    (hparen : paren.token = .mark .openParen) :
    Prompt NotWhere (argumentsFrom t name) (paren :: ts) := by
  have hx : NotWhere paren.token := by simp [hparen]
  by_cases hbound : name = "bound"
  · subst hbound
    exact prompt_boundArgument t paren ts hparen
  by_cases hregex : name = "regex"
  · subst hregex
    refine .skip hx (fun y us _ => ?_) ((prompt_disjunction t ts).andThen
      (K := fun target rest => plain (regexArguments target rest)) fun target rest _ =>
      prompt_regexArguments target rest)
    rw [argumentsFrom, arguments.eq_def]
    simp only [hbound, if_false, if_true]
    exact plain_bind fun s => plain_same fun _ => rfl
  cases hbinary : binaryFunction? name with
  | some f =>
    refine .skip hx (fun y us _ => ?_) ((prompt_disjunction t ts).andThen
      (K := fun a rest => (plain (mark .comma (.callComma name) rest)).andThen fun _ rest =>
        (plain (disjunction t rest)).andThen fun b rest => .ok (f a b, rest)) fun a rest₁ h₁ =>
      (prompt_mark .comma (.callComma name) rest₁).andThen fun _ rest₂ h₂ => ?_)
    · rw [argumentsFrom, arguments.eq_def]
      simp only [hbound, hregex, if_false, hbinary]
      exact plain_bind fun s => plain_bind fun s' => plain_bind fun s'' => rfl
    · have hlt₁ := shorter_of_plain h₁
      have hlt₂ := shorter_of_plain h₂
      exact (prompt_disjunction t rest₂).map (f a)
  | none =>
    cases hunary : unaryFunction? name with
    | some f =>
      refine .skip hx (fun y us _ => ?_) ((prompt_disjunction t ts).map f)
      rw [argumentsFrom, arguments.eq_def]
      simp only [hbound, hregex, if_false, hbinary, hunary]
      exact plain_bind fun s => rfl
    | none =>
      refine .refusesHere (.function name) fun y us _ => ?_
      rw [argumentsFrom, arguments.eq_def]
      simp only [hbound, hregex, if_false, hbinary, hunary, plain_refuse]
termination_by (ts.length + 1, 7)

end

theorem prompt_constraint (t : Namespaces) (ts : Tokens) :
    Prompt NotWhere (fun us => plain (constraint t us)) ts := by
  cases ts with
  | nil => exact .nil .filterStart rfl
  | cons x rest =>
    obtain ⟨tok, text⟩ := x
    cases tok with
    | mark m =>
      by_cases hparen : m = .openParen
      · subst hparen
        refine .skip (by simp) ?_ ((prompt_disjunction t rest).closedBy .closeParen .filterEnd)
        rintro ⟨_, _⟩ us ⟨⟩
        exact plain_bind fun s => plain_bind fun s' => rfl
      · exact .headFails .filterStart (by rintro ⟨_, _⟩ us ⟨⟩; simp [constraint, hparen])
    | word word =>
      have hconstraint (b : String) (text : List Char) (us : Tokens) :
          constraint t (⟨.word b, text⟩ :: us) =
            if (Token.word b).isKeyword "NOT" || (Token.word b).isKeyword "EXISTS" then
              refuse .exists_
            else call t b ⟨.word b, text⟩ us := rfl
      cases hexists : (Token.word word).isKeyword "NOT" || (Token.word word).isKeyword "EXISTS" with
      | true =>
        refine .refusesHere .exists_ fun ⟨tok, text⟩ us hy => ?_
        obtain ⟨b, rfl, -⟩ := hy.exists_word
        rw [hconstraint, ← hy.isKeyword_eq, ← hy.isKeyword_eq, hexists]
        rfl
      | false =>
        refine .head (fun ⟨tok, text⟩ us hy => ?_) (prompt_callFrom t word text rest)
        obtain ⟨b, rfl, hletters⟩ := hy.exists_word
        rw [hconstraint, ← hy.isKeyword_eq, ← hy.isKeyword_eq, hexists, callFrom,
          call_congr t (Text.lowercase_congr hletters)]
        rfl
    | _ => exact .headFails .filterStart (by rintro ⟨_, _⟩ us ⟨⟩; rfl)

end LinkedRaces.QueryParser
