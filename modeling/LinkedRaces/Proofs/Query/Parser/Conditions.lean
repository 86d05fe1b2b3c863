import LinkedRaces.Proofs.Query.Parser.Filters
import LinkedRaces.Proofs.Query.Parser.GroupSoundness

/-!
The grammar of filters. The parser reads a condition from exactly the tokens of which the grammar
makes it: what the grammar makes is taken wherever a mark follows that ends it, and what is taken the
grammar makes.
-/

namespace LinkedRaces.QueryParser

inductive NamesIri (t : Namespaces) : Token → Iri → Prop
  | reference (body : String) : NamesIri t (.iri body) (t.resolve body)
  | prefixed {label name : String} {i : Iri} (h : t.expand? label name = some i) :
    NamesIri t (.prefixed label name) i

inductive SpellsLiteral (t : Namespaces) : List Token → Literal → Prop
  | plain (value : String) : SpellsLiteral t [.string value] (.plain value)
  | tagged (value tag : String) : SpellsLiteral t [.string value, .tag tag] (.tagged value tag)
  | typed (value : String) {tok : Token} {i : Iri} (h : NamesIri t tok i) :
    SpellsLiteral t [.string value, .mark .doubleCaret, tok] (.typed value i)
  | shorthand {tok : Token} {l : Literal} (h : tok.shorthand? = some l) : SpellsLiteral t [tok] l

def parens (ts : List Token) : List Token := .mark .openParen :: (ts ++ [.mark .closeParen])

/-- What a condition is an operand of, from loosest to tightest. -/
inductive Level
  | disjunction | conjunction | negation | relation | operand

/-- The tokens make the condition, at that level. -/
inductive Reads (t : Namespaces) : Level → List Token → Expression → Prop
  | or {us vs : List Token} {a b : Expression} (ha : Reads t .disjunction us a)
    (hb : Reads t .conjunction vs b) : Reads t .disjunction (us ++ .mark .or :: vs) (.or a b)
  | disjunct {us : List Token} {e : Expression} (h : Reads t .conjunction us e) :
    Reads t .disjunction us e
  | and {us vs : List Token} {a b : Expression} (ha : Reads t .conjunction us a)
    (hb : Reads t .negation vs b) : Reads t .conjunction (us ++ .mark .and :: vs) (.and a b)
  | conjunct {us : List Token} {e : Expression} (h : Reads t .negation us e) :
    Reads t .conjunction us e
  | not {us : List Token} {e : Expression} (h : Reads t .negation us e) :
    Reads t .negation (.mark .bang :: us) (.not e)
  | plain {us : List Token} {e : Expression} (h : Reads t .relation us e) :
    Reads t .negation us e
  | compare (op : Comparison) {us vs : List Token} {a b : Expression} (ha : Reads t .operand us a)
    (hb : Reads t .operand vs b) :
    Reads t .relation (us ++ .mark op.mark :: vs) (.compare op a b)
  | single {us : List Token} {e : Expression} (h : Reads t .operand us e) : Reads t .relation us e
  | enclosed {us : List Token} {e : Expression} (h : Reads t .disjunction us e) :
    Reads t .operand (parens us) e
  | var (name : String) : Reads t .operand [.var name] (.var name)
  | iri {tok : Token} {i : Iri} (h : NamesIri t tok i) :
    Reads t .operand [tok] (.const (.iri i))
  | literal {us : List Token} {l : Literal} (h : SpellsLiteral t us l) :
    Reads t .operand us (.const (.literal l))
  | bound {word : String} (hword : Text.lowercase word = "bound") (name : String) :
    Reads t .operand (.word word :: parens [.var name]) (.bound name)
  | unary {word : String} {f : Expression → Expression} {us : List Token} {e : Expression}
    (hf : unaryFunction? (Text.lowercase word) = some f) (h : Reads t .disjunction us e) :
    Reads t .operand (.word word :: parens us) (f e)
  | binary {word : String} {f : Expression → Expression → Expression} {us vs : List Token}
    {a b : Expression} (hf : binaryFunction? (Text.lowercase word) = some f)
    (ha : Reads t .disjunction us a) (hb : Reads t .disjunction vs b) :
    Reads t .operand (.word word :: parens (us ++ .mark .comma :: vs)) (f a b)
  | regex {word : String} {us vs : List Token} {e : Expression} {p : TextPattern}
    (hword : Text.lowercase word = "regex") (h : Reads t .disjunction us e)
    (hp : SpellsPattern vs p) :
    Reads t .operand (.word word :: parens (us ++ vs)) (.regex e p)

variable {t : Namespaces} {α : Type} {n : Nat}

/-- The tokens that were taken from `ts` make the value. -/
def Covers (P : List Token → α → Prop) (ts : Tokens) (r : Reading Located α n) : Prop :=
  ∃ used, ts = used ++ r.rest ∧ P (used.map Located.token) r.value

theorem covers_mark (m : Mark) (fault : QueryFault) (ts : Tokens) :
    Ensures (mark m fault ts) (Covers (fun us _ => us = [.mark m]) ts) := by
  cases ts with
  | nil => exact .error _
  | cons x ts =>
    simp only [mark, Tokens.mark]
    split
    next hx => exact .ok ⟨[x], rfl, by simp [hx]⟩
    next => exact .error _

theorem covers_iri (t : Namespaces) (ts : Tokens) :
    Ensures (iri t ts) (Covers (fun us i => ∃ tok, us = [tok] ∧ NamesIri t tok i) ts) := by
  cases ts with
  | nil => exact .error _
  | cons x ts =>
    rw [iri]
    split
    next body hx => exact .ok ⟨[x], rfl, .iri body, by simp [hx], .reference body⟩
    next label name hx =>
      split
      next i hi => exact .ok ⟨[x], rfl, .prefixed label name, by simp [hx], .prefixed hi⟩
      next => exact .error _
    next => exact .error _

theorem covers_quoted (t : Namespaces) {value : String} {x : Located}
    (hx : x.token = .string value) (ts : Tokens) :
    Ensures (Tokens.quoted (iri t) value x ts) (Covers (SpellsLiteral t) (x :: ts)) := by
  cases ts with
  | nil => exact .ok ⟨[x], rfl, by simpa [hx] using .plain value⟩
  | cons y ts =>
    rw [Tokens.quoted]
    split
    next tag hy => exact .ok ⟨[x, y], rfl, by simpa [hx, hy] using .tagged value tag⟩
    next hy =>
      refine (covers_iri t ts).bind fun r hr => ?_
      obtain ⟨used, hused, tok, htok, hi⟩ := hr
      refine .ok ⟨x :: y :: used, congrArg (x :: y :: ·) hused, ?_⟩
      simpa [hx, hy, htok] using .typed value hi
    next => exact .ok ⟨[x], rfl, by simpa [hx] using .plain value⟩

theorem covers_literal (t : Namespaces) (fault : QueryFault) (ts : Tokens) :
    Ensures (literal t fault ts) (Covers (SpellsLiteral t) ts) := by
  cases ts with
  | nil => exact .error _
  | cons x ts =>
    simp only [literal]
    split
    next value hx => exact covers_quoted t hx ts
    next l hl _ => exact .ok ⟨[x], rfl, .shorthand hl⟩
    next => exact .error _

theorem covers_stringArgument (fault : QueryFault) (ts : Tokens) :
    Ensures (stringArgument fault ts) (Covers (fun us value => us = [.string value]) ts) := by
  unfold stringArgument
  split
  next value text rest => exact .ok ⟨[⟨.string value, text⟩], rfl, rfl⟩
  next => exact .error _

theorem covers_regexArguments (target : Expression) (ts : Tokens) :
    Ensures (regexArguments target ts)
      (Covers (fun us e => ∃ p, e = .regex target p ∧ SpellsPattern us p) ts) := by
  unfold regexArguments
  refine (covers_mark _ _ ts).bind fun r hr => ?_
  obtain ⟨_, rest₁, h₁⟩ := r
  obtain ⟨comma, hts, hcomma⟩ := hr
  refine (covers_stringArgument _ rest₁).bind fun r hr => ?_
  obtain ⟨pattern, rest₂, h₂⟩ := r
  obtain ⟨us, hrest₁, hus⟩ := hr
  dsimp only at hts hcomma hrest₁ hus ⊢
  split
  next text rest₃ _ =>
    refine (covers_stringArgument _ rest₃).bind fun r hr => ?_
    obtain ⟨flags, rest₄, h₄⟩ := r
    obtain ⟨vs, hrest₃, hvs⟩ := hr
    dsimp only at hrest₃ hvs ⊢
    refine Ensures.bind (P := Compiles pattern flags) (fun p => textPattern_eq_ok_iff.1) fun p hp => ?_
    refine .ok ⟨comma ++ us ++ ⟨.mark .comma, text⟩ :: vs, by simp [hts, hrest₁, hrest₃], p, rfl, ?_⟩
    simpa [hcomma, hus, hvs] using .flagged hp
  next =>
    refine Ensures.bind (P := Compiles pattern "") (fun p => textPattern_eq_ok_iff.1) fun p hp => ?_
    refine .ok ⟨comma ++ us, by simp [hts, hrest₁], p, rfl, ?_⟩
    simpa [hcomma, hus] using .plain hp

def Extends (t : Namespaces) (l : Level) (left : Expression) (vs : List Token) (e : Expression) :
    Prop := ∀ us, Reads t l us left → Reads t l (us ++ vs) e

def ReadsArguments (t : Namespaces) (name : String) (us : List Token) (e : Expression) : Prop :=
  ∀ word, Text.lowercase word = name → Reads t .operand (.word word :: parens us) e

theorem covers_boundArgument (t : Namespaces) (paren : Located) (ts : Tokens) :
    Ensures (boundArgument paren ts) (Covers (ReadsArguments t "bound") ts) := by
  unfold boundArgument
  split
  next name text rest => exact .ok ⟨[⟨.var name, text⟩], rfl, fun word hword => .bound hword name⟩
  next => exact .error _

mutual

theorem covers_disjunction (t : Namespaces) (ts : Tokens) :
    Ensures (disjunction t ts) (Covers (Reads t .disjunction) ts) := by
  rw [disjunction]
  refine (covers_conjunction t ts).bind fun r hr => ?_
  obtain ⟨e, rest, h⟩ := r
  obtain ⟨us, hts, hus⟩ := hr
  refine (covers_disjuncts t e rest).bind fun r hr => ?_
  obtain ⟨vs, hrest, hvs⟩ := hr
  dsimp only at hts hus
  refine .ok ⟨us ++ vs, by simp [hts, hrest, Reading.weaken], ?_⟩
  simpa [Reading.weaken] using hvs _ (.disjunct hus)
termination_by (ts.length, 6)

theorem covers_disjuncts (t : Namespaces) (left : Expression) (ts : Tokens) :
    Ensures (disjuncts t left ts) (Covers (Extends t .disjunction left) ts) := by
  unfold disjuncts
  split
  next text rest =>
    refine (covers_conjunction t rest).bind fun r hr => ?_
    obtain ⟨e, rest', h⟩ := r
    obtain ⟨us, hrest, hus⟩ := hr
    have : rest'.length < (⟨.mark .or, text⟩ :: rest : Tokens).length := by simp; omega
    refine (covers_disjuncts t (.or left e) rest').bind fun r hr => ?_
    obtain ⟨vs, hrest', hvs⟩ := hr
    dsimp only at hrest hus
    refine .ok ⟨⟨.mark .or, text⟩ :: (us ++ vs), by simp [hrest, hrest', Reading.weaken], ?_⟩
    intro ws hws
    simpa [Reading.weaken] using hvs _ (.or hws hus)
  next => exact .ok ⟨[], rfl, fun ws hws => by simpa using hws⟩
termination_by (ts.length, 0)

theorem covers_conjunction (t : Namespaces) (ts : Tokens) :
    Ensures (conjunction t ts) (Covers (Reads t .conjunction) ts) := by
  rw [conjunction]
  refine (covers_negation t ts).bind fun r hr => ?_
  obtain ⟨e, rest, h⟩ := r
  obtain ⟨us, hts, hus⟩ := hr
  refine (covers_conjuncts t e rest).bind fun r hr => ?_
  obtain ⟨vs, hrest, hvs⟩ := hr
  dsimp only at hts hus
  refine .ok ⟨us ++ vs, by simp [hts, hrest, Reading.weaken], ?_⟩
  simpa [Reading.weaken] using hvs _ (.conjunct hus)
termination_by (ts.length, 5)

theorem covers_conjuncts (t : Namespaces) (left : Expression) (ts : Tokens) :
    Ensures (conjuncts t left ts) (Covers (Extends t .conjunction left) ts) := by
  unfold conjuncts
  split
  next text rest =>
    refine (covers_negation t rest).bind fun r hr => ?_
    obtain ⟨e, rest', h⟩ := r
    obtain ⟨us, hrest, hus⟩ := hr
    have : rest'.length < (⟨.mark .and, text⟩ :: rest : Tokens).length := by simp; omega
    refine (covers_conjuncts t (.and left e) rest').bind fun r hr => ?_
    obtain ⟨vs, hrest', hvs⟩ := hr
    dsimp only at hrest hus
    refine .ok ⟨⟨.mark .and, text⟩ :: (us ++ vs), by simp [hrest, hrest', Reading.weaken], ?_⟩
    intro ws hws
    simpa [Reading.weaken] using hvs _ (.and hws hus)
  next => exact .ok ⟨[], rfl, fun ws hws => by simpa using hws⟩
termination_by (ts.length, 0)

theorem covers_negation (t : Namespaces) (ts : Tokens) :
    Ensures (negation t ts) (Covers (Reads t .negation) ts) := by
  unfold negation
  split
  next text rest =>
    refine (covers_negation t rest).bind fun r hr => ?_
    obtain ⟨us, hrest, hus⟩ := hr
    refine .ok ⟨⟨.mark .bang, text⟩ :: us, by simp [hrest, Reading.weaken, Reading.map], ?_⟩
    exact .not hus
  next => exact (covers_relation t ts).mono fun r ⟨us, hts, hus⟩ => ⟨us, hts, .plain hus⟩
termination_by (ts.length, 4)

theorem covers_relation (t : Namespaces) (ts : Tokens) :
    Ensures (relation t ts) (Covers (Reads t .relation) ts) := by
  rw [relation]
  refine (covers_operand t ts).bind fun r hr => ?_
  obtain ⟨left, rest, h⟩ := r
  obtain ⟨us, hts, hus⟩ := hr
  refine (Ensures.trivial _).bind fun _ _ => ?_
  dsimp only at hts hus ⊢
  split
  next => exact .ok ⟨us, hts, .single hus⟩
  next x rest' h =>
    have : rest'.length < ts.length := by simp at h; omega
    split
    next m hx =>
      split
      next op hop =>
        refine (covers_operand t rest').bind fun r hr => ?_
        obtain ⟨right, rest'', h'⟩ := r
        obtain ⟨vs, hrest', hvs⟩ := hr
        refine (Ensures.trivial _).bind fun _ _ => ?_
        have hm : m = op.mark := by cases m <;> cases hop <;> rfl
        dsimp only at hrest' hvs
        refine .ok ⟨us ++ x :: vs, by simp [hts, hrest'], ?_⟩
        simpa [hx, hm] using .compare op hus hvs
      next => exact .ok ⟨us, hts, .single hus⟩
    next =>
      split
      next => exact .error _
      next => exact .ok ⟨us, hts, .single hus⟩
termination_by (ts.length, 3)

theorem covers_operand (t : Namespaces) (ts : Tokens) :
    Ensures (operand t ts) (Covers (Reads t .operand) ts) := by
  cases ts with
  | nil =>
    rw [operand]
    exact .error _
  | cons x rest =>
    rw [operand]
    split
    next hx =>
      refine (covers_disjunction t rest).bind fun r hr => ?_
      obtain ⟨e, rest₁, h₁⟩ := r
      obtain ⟨us, hrest, hus⟩ := hr
      refine (covers_mark _ _ rest₁).bind fun r hr => ?_
      obtain ⟨_, rest₂, h₂⟩ := r
      obtain ⟨close, hrest₁, hclose⟩ := hr
      dsimp only at hrest hus hrest₁ hclose
      refine .ok ⟨x :: (us ++ close), by simp [hrest, hrest₁], ?_⟩
      simpa [parens, hx, hclose] using .enclosed hus
    next name hx => exact .ok ⟨[x], rfl, by simpa [hx] using .var name⟩
    next hx =>
      refine (covers_iri t (x :: rest)).bind fun r hr => ?_
      obtain ⟨us, hts, tok, hus, hi⟩ := hr
      exact .ok ⟨us, hts, by simpa [hus] using .iri hi⟩
    next hx =>
      refine (covers_iri t (x :: rest)).bind fun r hr => ?_
      obtain ⟨us, hts, tok, hus, hi⟩ := hr
      exact .ok ⟨us, hts, by simpa [hus] using .iri hi⟩
    next word hx =>
      split
      next =>
        refine (covers_literal t _ (x :: rest)).bind fun r ⟨us, hts, hus⟩ => ?_
        exact .ok ⟨us, hts, .literal hus⟩
      next => exact covers_call t hx rest
    next =>
      refine (covers_literal t _ (x :: rest)).bind fun r ⟨us, hts, hus⟩ => ?_
      exact .ok ⟨us, hts, .literal hus⟩
termination_by (ts.length, 2)

theorem covers_call (t : Namespaces) {word : String} {x : Located} (hx : x.token = .word word)
    (ts : Tokens) : Ensures (call t word x ts) (Covers (Reads t .operand) (x :: ts)) := by
  unfold call
  dsimp only
  split
  next => exact .error _
  next =>
    split
    next => exact .error _
    next =>
      split
      next => exact .error _
      next paren rest =>
        split
        next => exact .error _
        next hparen =>
          refine (covers_arguments t _ paren rest).bind fun r hr => ?_
          obtain ⟨e, rest₁, h₁⟩ := r
          obtain ⟨us, hrest, hus⟩ := hr
          refine (covers_mark _ _ rest₁).bind fun r hr => ?_
          obtain ⟨_, rest₂, h₂⟩ := r
          obtain ⟨close, hrest₁, hclose⟩ := hr
          dsimp only at hrest hus hrest₁ hclose
          refine .ok ⟨x :: paren :: (us ++ close), by simp [hrest, hrest₁], ?_⟩
          simpa [parens, hx, Decidable.not_not.1 hparen, hclose] using hus word rfl
termination_by (ts.length, 1)

theorem covers_arguments (t : Namespaces) (name : String) (paren : Located) (ts : Tokens) :
    Ensures (arguments t name paren ts) (Covers (ReadsArguments t name) ts) := by
  rw [arguments]
  split
  next hname =>
    subst hname
    exact covers_boundArgument t paren ts
  next =>
    split
    next hname =>
      refine (covers_disjunction t ts).bind fun r hr => ?_
      obtain ⟨target, rest, h⟩ := r
      obtain ⟨us, hts, hus⟩ := hr
      refine (covers_regexArguments target rest).bind fun r hr => ?_
      obtain ⟨vs, hrest, p, he, hvs⟩ := hr
      dsimp only at hts hus
      refine .ok ⟨us ++ vs, by simp [hts, hrest, Reading.weaken], fun word hword => ?_⟩
      simpa [Reading.weaken, he] using .regex (hword.trans hname) hus hvs
    next =>
      split
      next f hf =>
        refine (covers_disjunction t ts).bind fun r hr => ?_
        obtain ⟨a, rest₁, h₁⟩ := r
        obtain ⟨us, hts, hus⟩ := hr
        refine (covers_mark _ _ rest₁).bind fun r hr => ?_
        obtain ⟨_, rest₂, h₂⟩ := r
        obtain ⟨comma, hrest₁, hcomma⟩ := hr
        refine (covers_disjunction t rest₂).bind fun r hr => ?_
        obtain ⟨b, rest₃, h₃⟩ := r
        obtain ⟨vs, hrest₂, hvs⟩ := hr
        dsimp only at hts hus hrest₁ hcomma hrest₂ hvs
        refine .ok ⟨us ++ (comma ++ vs), by simp [hts, hrest₁, hrest₂], fun word hword => ?_⟩
        simpa [hcomma] using .binary (hword ▸ hf) hus hvs
      next f _ hf =>
        refine (covers_disjunction t ts).bind fun r hr => ?_
        obtain ⟨us, hts, hus⟩ := hr
        exact .ok ⟨us, hts, fun word hword => .unary (hword ▸ hf) hus⟩
      next => exact .error _
termination_by (ts.length, 7)

end

theorem covers_constraint (t : Namespaces) (ts : Tokens) :
    Ensures (constraint t ts) (Covers (Reads t .operand) ts) := by
  cases ts with
  | nil => exact .error _
  | cons x rest =>
    rw [constraint]
    split
    next hx =>
      refine (covers_disjunction t rest).bind fun r hr => ?_
      obtain ⟨e, rest₁, h₁⟩ := r
      obtain ⟨us, hrest, hus⟩ := hr
      refine (covers_mark _ _ rest₁).bind fun r hr => ?_
      obtain ⟨_, rest₂, h₂⟩ := r
      obtain ⟨close, hrest₁, hclose⟩ := hr
      dsimp only at hrest hus hrest₁ hclose
      refine .ok ⟨x :: (us ++ close), by simp [hrest, hrest₁], ?_⟩
      simpa [parens, hx, hclose] using .enclosed hus
    next word hx =>
      split
      next => exact .error _
      next => exact covers_call t hx rest
    next => exact .error _

variable {us vs : List Token} {a b e : Expression} {l : Level}

theorem takes_namesIri {tok : Token} {i : Iri} (h : NamesIri t tok i) :
    Takes (iri t) [tok] i Anything := by
  cases h with
  | reference body => exact .single fun text rest _ => by rw [iri]
  | prefixed h => exact .single fun text rest _ => by simp only [iri, h]

theorem takes_spelledLiteral {l : Literal} (h : SpellsLiteral t us l) (fault : QueryFault) :
    Takes (literal t fault) us l (NextIsNot ExtendsLiteral) := by
  intro ls rest hls hrest
  cases h with
  | plain value =>
    obtain ⟨⟨_, text⟩, rfl, rfl⟩ := List.map_eq_singleton_iff.1 hls
    exact ⟨_, Tokens.quoted_plain (iri t) value _ hrest⟩
  | tagged value tag =>
    obtain ⟨⟨_, text⟩, ls, rfl, rfl, htag⟩ := List.map_eq_cons_iff.1 hls
    obtain ⟨⟨_, text'⟩, rfl, rfl⟩ := List.map_eq_singleton_iff.1 htag
    exact ⟨by grind, rfl⟩
  | typed value hi =>
    obtain ⟨⟨_, text⟩, ls, rfl, rfl, hcarets⟩ := List.map_eq_cons_iff.1 hls
    obtain ⟨⟨_, carets⟩, li, rfl, rfl, hli⟩ := List.map_eq_cons_iff.1 hcarets
    obtain ⟨hlt, hread⟩ := takes_namesIri hi li rest hli trivial
    refine ⟨by grind, ?_⟩
    simp only [List.cons_append, literal, Tokens.quoted, hread]
    rfl
  | shorthand h =>
    obtain ⟨⟨_, text⟩, rfl, rfl⟩ := List.map_eq_singleton_iff.1 hls
    exact ⟨_, literal_of_shorthand h fault text rest⟩

def OpensConstant (tok : Token) : Prop := (∃ value, tok = .string value) ∨ tok.shorthand?.isSome

theorem exists_opensConstant {l : Literal} (h : SpellsLiteral t us l) :
    ∃ tok vs, us = tok :: vs ∧ OpensConstant tok := by
  cases h with
  | shorthand h => exact ⟨_, _, rfl, .inr (h ▸ rfl)⟩
  | _ => exact ⟨_, _, rfl, .inl ⟨_, rfl⟩⟩

theorem operand_of_opensConstant {x : Located} (h : OpensConstant x.token) (rest : Tokens) :
    operand t (x :: rest) =
      (literal t .expression (x :: rest)).map fun r => r.map (.const ∘ .literal) := by
  obtain ⟨tok, text⟩ := x
  cases tok with
  | string value | integer digits | decimal digits | double digits =>
    rw [operand]
    rfl
  | word word =>
    have hword : word = "true" ∨ word = "false" := by simpa [OpensConstant, Token.shorthand?] using h
    rw [operand]
    simp only [hword, if_true]
    rfl
  | _ => simp [OpensConstant, Token.shorthand?] at h

theorem takes_literalOperand {l : Literal} (h : SpellsLiteral t us l) :
    Takes (operand t) us (.const (.literal l)) (NextIsNot ExtendsLiteral) := by
  intro ls rest hls hrest
  obtain ⟨hlt, hread⟩ := takes_spelledLiteral h .expression ls rest hls hrest
  obtain ⟨tok, vs, rfl, hopens⟩ := exists_opensConstant h
  obtain ⟨x, ls, rfl, rfl, -⟩ := List.map_eq_cons_iff.1 hls
  refine ⟨hlt, ?_⟩
  simp only [List.cons_append] at hread ⊢
  rw [operand_of_opensConstant hopens, hread]
  rfl

theorem takes_iriOperand {tok : Token} {i : Iri} (h : NamesIri t tok i) :
    Takes (operand t) [tok] (.const (.iri i)) Anything := by
  refine .single fun text rest _ => ?_
  obtain ⟨hlt, hread⟩ := takes_namesIri h [⟨tok, text⟩] rest rfl trivial
  simp only [List.singleton_append] at hread
  cases h with
  | reference body =>
    rw [operand]
    simp only [hread]
    rfl
  | prefixed h =>
    rw [operand]
    simp only [hread]
    rfl

theorem isFunction_of_unary {name : String} {f : Expression → Expression}
    (hf : unaryFunction? name = some f) :
    IsFunction name ∧ name ≠ "bound" ∧ name ≠ "regex" ∧ (binaryFunction? name).isNone := by
  unfold unaryFunction? at hf
  split at hf <;> cases hf <;> decide

theorem isFunction_of_binary {name : String} {f : Expression → Expression → Expression}
    (hf : binaryFunction? name = some f) :
    IsFunction name ∧ name ≠ "bound" ∧ name ≠ "regex" := by
  unfold binaryFunction? at hf
  split at hf <;> cases hf <;> decide

def Level.Taken (t : Namespaces) : Level → List Token → Expression → Prop
  | disjunction, us, e =>
    Leads (QueryParser.disjunction t) (disjuncts t) us e (NextMark afterConjunction)
  | conjunction, us, e =>
    Leads (QueryParser.conjunction t) (conjuncts t) us e (NextMark afterRelation)
  | negation, us, e => Takes (QueryParser.negation t) us e (NextMark afterRelation)
  | relation, us, e => Takes (QueryParser.relation t) us e (NextMark afterRelation) ∧ NoBang us
  | operand, us, e => Takes (QueryParser.operand t) us e (NextIsNot ExtendsLiteral) ∧ NoBang us

theorem taken_of_reads (h : Reads t l us e) : l.Taken t us e := by
  have noBang {tok : Token} (us : List Token) (h : tok ≠ .mark .bang) : NoBang (tok :: us) :=
    ⟨tok, us, rfl, h⟩
  induction h with
  | or ha hb iha ihb => exact leads_or iha (takes_conjuncts ihb)
  | disjunct h ih => exact leads_disjunct (takes_conjuncts ih)
  | and ha hb iha ihb => exact leads_and iha ihb
  | conjunct h ih => exact leads_conjunct ih
  | not h ih => exact takes_not ih
  | plain h ih => exact takes_negation ih.1 ih.2
  | compare op ha hb iha ihb => exact ⟨takes_compare op iha.1 ihb.1, noBang_append iha.2 _⟩
  | single h ih => exact ⟨takes_relation ih.1, ih.2⟩
  | enclosed h ih =>
    exact ⟨(takes_parens (takes_disjuncts ih)).mono fun _ _ => trivial, noBang _ (by decide)⟩
  | var name => exact ⟨(takes_var name).mono fun _ _ => trivial, noBang _ nofun⟩
  | iri h =>
    refine ⟨(takes_iriOperand h).mono fun _ _ => trivial, noBang _ ?_⟩
    cases h <;> exact nofun
  | literal h =>
    refine ⟨takes_literalOperand h, ?_⟩
    obtain ⟨tok, vs, rfl, hopens⟩ := exists_opensConstant h
    refine noBang vs ?_
    rintro rfl
    simp [OpensConstant, Token.shorthand?] at hopens
  | bound hword name =>
    have hn : IsFunction "bound" := by decide
    exact ⟨(takes_call hword hn (takes_bound name)).mono fun _ _ => trivial, noBang _ nofun⟩
  | unary hf h ih =>
    obtain ⟨hn, hne⟩ := isFunction_of_unary hf
    have harguments := takes_unary (t := t) hf hne (takes_disjuncts ih)
    exact ⟨(takes_call rfl hn harguments).mono fun _ _ => trivial, noBang _ nofun⟩
  | binary hf ha hb iha ihb =>
    obtain ⟨hn, hne⟩ := isFunction_of_binary hf
    have harguments := takes_binary hf hne (takes_disjuncts iha) (takes_disjuncts ihb)
    exact ⟨(takes_call rfl hn harguments).mono fun _ _ => trivial, noBang _ nofun⟩
  | regex hword h hp ih =>
    have hn : IsFunction "regex" := by decide
    have harguments := takes_regex hp (takes_disjuncts ih)
    exact ⟨(takes_call hword hn harguments).mono fun _ _ => trivial, noBang _ nofun⟩

theorem takes_of_reads (h : Reads t .disjunction us e) :
    Takes (disjunction t) us e (NextMark afterExpression) :=
  takes_disjuncts (taken_of_reads h)

end LinkedRaces.QueryParser
