import LinkedRaces.Proofs.Lexical.Naming
import LinkedRaces.Proofs.Query.Grammar
import LinkedRaces.Query.Parser.Groups

/-! What the parser reads is grammatical: terms, conditions, patterns and groups. -/

namespace LinkedRaces.QueryParser

open Tokens (All Sound ensures_took all_cons)

variable {T : Token → Prop} {t : Namespaces}

theorem sound_mark (m : Mark) (fault : QueryFault) : Sound T (mark m fault) fun _ => True :=
  Tokens.sound_mark m (failure fault)

theorem sound_iri (t : Namespaces) : Sound T (iri t) fun _ => True := by
  intro ts hts
  cases ts with
  | nil => exact .error _
  | cons x ts =>
    rw [iri]
    split
    · exact ensures_took trivial hts.of_cons
    · split
      · exact ensures_took trivial hts.of_cons
      · exact .error _
    · exact .error _

theorem sound_literal (t : Namespaces) (fault : QueryFault) :
    Sound T (literal t fault) fun _ => True := by
  intro ts hts
  cases ts with
  | nil => exact .error _
  | cons x ts =>
    rw [literal]
    split
    · exact (Tokens.ensures_quoted (sound_iri t) _ x hts.of_cons).mono fun _ hr => ⟨trivial, hr.2⟩
    · exact ensures_took trivial hts.of_cons
    · exact .error _

theorem ensures_iri {P : Term → Prop} (hP : ∀ i, P (.iri i)) {ts : Tokens} (hts : All T ts) :
    Ensures (do return (← iri t ts).map Term.iri : Result Term ts) (Reading.Sound T P) :=
  (sound_iri t ts hts).bind fun _ hi => .ok (hi.map fun i _ => hP i)

variable [NamesVariables T]

theorem isVarName_of_named {x : Located} {ts : Tokens} {name : String} (hts : All T (x :: ts))
    (hx : x.token = .var name) : IsVarName name := by
  have hnamed : x.token.Named := NamesVariables.named (all_cons.1 hts).1
  rwa [hx] at hnamed

theorem sound_subject (t : Namespaces) :
    Sound T (subject t) fun s => s.isLiteral = false ∧ s.Named := by
  intro ts hts
  cases ts with
  | nil => exact .error _
  | cons x ts =>
    rw [subject]
    split
    · next hx => exact ensures_took ⟨rfl, isVarName_of_named hts hx⟩ hts.of_cons
    · exact ensures_iri (fun _ => ⟨rfl, trivial⟩) hts
    · exact ensures_iri (fun _ => ⟨rfl, trivial⟩) hts
    all_goals exact .error _

theorem sound_predicate (t : Namespaces) :
    Sound T (predicate t) fun p => p.isLiteral = false ∧ p.Named := by
  intro ts hts
  cases ts with
  | nil => exact .error _
  | cons x ts =>
    rw [predicate]
    split
    · next hx => exact ensures_took ⟨rfl, isVarName_of_named hts hx⟩ hts.of_cons
    · split
      · exact ensures_took ⟨rfl, trivial⟩ hts.of_cons
      · exact .error _
    · exact ensures_iri (fun _ => ⟨rfl, trivial⟩) hts
    · exact ensures_iri (fun _ => ⟨rfl, trivial⟩) hts
    all_goals exact .error _

theorem sound_object (t : Namespaces) : Sound T (object t) Term.Named := by
  intro ts hts
  cases ts with
  | nil => exact .error _
  | cons x ts =>
    rw [object]
    split
    · next hx => exact .ok ⟨isVarName_of_named hts hx, hts.of_cons⟩
    · exact ensures_iri (fun _ => trivial) hts
    · exact ensures_iri (fun _ => trivial) hts
    · exact .error _
    · exact .error _
    · exact .error _
    · exact (sound_literal t _ _ hts).bind fun _ hl => .ok (hl.map fun _ _ => trivial)

omit [NamesVariables T] in
theorem sound_stringArgument (fault : QueryFault) :
    Sound T (stringArgument fault) fun _ => True := by
  intro ts hts
  unfold stringArgument
  split
  · exact ensures_took trivial hts.of_cons
  · exact .error _

theorem ensures_boundArgument (paren : Located) {ts : Tokens} (hts : All T ts) :
    Ensures (boundArgument paren ts) (Reading.Sound T Expression.Grammatical) := by
  unfold boundArgument
  split
  · exact .ok ⟨isVarName_of_named hts rfl, hts.of_cons⟩
  · exact .error _

theorem ensures_textPattern (pattern flags : String) (ts : Tokens) :
    Ensures (textPattern pattern flags ts)
      fun p => ∀ c ∈ p.flags.toList, c ∈ TextPattern.knownFlags := by
  unfold textPattern
  split
  · exact .error _
  · next hflags =>
    have hknown : ∀ c ∈ flags.toList, c ∈ TextPattern.knownFlags := by
      intro c hc
      have hc' := List.find?_eq_none.1 hflags c hc
      simpa using hc'
    split
    · next p hp =>
      refine .ok ?_
      have hpflags : p.flags = flags := by
        unfold TextPattern.compile at hp
        split at hp
        · cases hp
          rfl
        · cases hp
      rwa [hpflags]
    · exact .error _

omit [NamesVariables T] in
theorem ensures_regexArguments {target : Expression} (htarget : target.Grammatical) {ts : Tokens}
    (hts : All T ts) :
    Ensures (regexArguments target ts) (Reading.Sound T Expression.Grammatical) := by
  unfold regexArguments
  refine (sound_mark _ _ ts hts).bind fun r hcomma => ?_
  obtain ⟨_, rest₁, h₁⟩ := r
  refine (sound_stringArgument _ rest₁ hcomma.2).bind fun r hpattern => ?_
  obtain ⟨pattern, rest₂, h₂⟩ := r
  dsimp only
  split
  · refine (sound_stringArgument _ _ hpattern.2.of_cons).bind fun r hflags => ?_
    obtain ⟨flags, rest₄, h₄⟩ := r
    refine (ensures_textPattern pattern flags rest₄).bind fun p hp => ?_
    exact .ok ⟨⟨htarget, hp⟩, hflags.2⟩
  · refine (ensures_textPattern pattern "" _).bind fun p hp => ?_
    exact .ok ⟨⟨htarget, hp⟩, hpattern.2⟩

theorem grammatical_unaryFunction {name : String} {f : Expression → Expression}
    (hf : unaryFunction? name = some f) {e : Expression} (he : e.Grammatical) :
    (f e).Grammatical := by
  unfold unaryFunction? at hf
  split at hf <;> cases hf <;> exact he

theorem grammatical_binaryFunction {name : String} {f : Expression → Expression → Expression}
    (hf : binaryFunction? name = some f) {a b : Expression} (ha : a.Grammatical)
    (hb : b.Grammatical) : (f a b).Grammatical := by
  unfold binaryFunction? at hf
  split at hf <;> cases hf <;> exact ⟨ha, hb⟩

set_option linter.unusedSectionVars false in
mutual

theorem sound_disjunction (t : Namespaces) (ts : Tokens) (hts : All T ts) :
    Ensures (disjunction t ts) (Reading.Sound T Expression.Grammatical) := by
  rw [disjunction]
  refine (sound_conjunction t ts hts).bind fun r he => ?_
  obtain ⟨e, rest, h⟩ := r
  refine (ensures_disjuncts t e he.1 rest he.2).bind fun r hr => ?_
  exact .ok hr
termination_by (ts.length, 6)

theorem ensures_disjuncts (t : Namespaces) (left : Expression) (hleft : left.Grammatical)
    (ts : Tokens) (hts : All T ts) :
    Ensures (disjuncts t left ts) (Reading.Sound T Expression.Grammatical) := by
  unfold disjuncts
  split
  · next text rest =>
    refine (sound_conjunction t rest hts.of_cons).bind fun r he => ?_
    obtain ⟨e, rest', h⟩ := r
    have : rest'.length < (⟨.mark .or, text⟩ :: rest : Tokens).length := by simp; omega
    refine (ensures_disjuncts t (.or left e) ⟨hleft, he.1⟩ rest' he.2).bind fun r hr => ?_
    exact .ok hr
  · exact .ok ⟨hleft, hts⟩
termination_by (ts.length, 0)

theorem sound_conjunction (t : Namespaces) (ts : Tokens) (hts : All T ts) :
    Ensures (conjunction t ts) (Reading.Sound T Expression.Grammatical) := by
  rw [conjunction]
  refine (sound_negation t ts hts).bind fun r he => ?_
  obtain ⟨e, rest, h⟩ := r
  refine (ensures_conjuncts t e he.1 rest he.2).bind fun r hr => ?_
  exact .ok hr
termination_by (ts.length, 5)

theorem ensures_conjuncts (t : Namespaces) (left : Expression) (hleft : left.Grammatical)
    (ts : Tokens) (hts : All T ts) :
    Ensures (conjuncts t left ts) (Reading.Sound T Expression.Grammatical) := by
  unfold conjuncts
  split
  · next text rest =>
    refine (sound_negation t rest hts.of_cons).bind fun r he => ?_
    obtain ⟨e, rest', h⟩ := r
    have : rest'.length < (⟨.mark .and, text⟩ :: rest : Tokens).length := by simp; omega
    refine (ensures_conjuncts t (.and left e) ⟨hleft, he.1⟩ rest' he.2).bind fun r hr => ?_
    exact .ok hr
  · exact .ok ⟨hleft, hts⟩
termination_by (ts.length, 0)

theorem sound_negation (t : Namespaces) (ts : Tokens) (hts : All T ts) :
    Ensures (negation t ts) (Reading.Sound T Expression.Grammatical) := by
  unfold negation
  split
  · next text rest =>
    refine (sound_negation t rest hts.of_cons).bind fun r hr => ?_
    exact .ok hr
  · exact sound_relation t ts hts
termination_by (ts.length, 4)

theorem sound_relation (t : Namespaces) (ts : Tokens) (hts : All T ts) :
    Ensures (relation t ts) (Reading.Sound T Expression.Grammatical) := by
  rw [relation]
  refine (sound_operand t ts hts).bind fun r hleft => ?_
  obtain ⟨left, rest, h⟩ := r
  refine (Ensures.trivial _).bind fun _ _ => ?_
  dsimp only
  split
  · exact .ok hleft
  · next x rest' h =>
    have : rest'.length < ts.length := by simp at h; omega
    split
    · split
      · refine (sound_operand t rest' hleft.2.of_cons).bind fun r hright => ?_
        obtain ⟨right, rest'', h'⟩ := r
        refine (Ensures.trivial _).bind fun _ _ => ?_
        exact .ok ⟨⟨hleft.1, hright.1⟩, hright.2⟩
      · exact .ok hleft
    · split
      · exact .error _
      · exact .ok hleft
termination_by (ts.length, 3)

theorem sound_operand (t : Namespaces) (ts : Tokens) (hts : All T ts) :
    Ensures (operand t ts) (Reading.Sound T Expression.Grammatical) := by
  cases ts with
  | nil =>
    rw [operand]
    exact .error _
  | cons x rest =>
    rw [operand]
    split
    · refine (sound_disjunction t rest hts.of_cons).bind fun r he => ?_
      obtain ⟨e, rest₁, h₁⟩ := r
      refine (sound_mark _ _ rest₁ he.2).bind fun r hparen => ?_
      obtain ⟨_, rest₂, h₂⟩ := r
      exact .ok ⟨he.1, hparen.2⟩
    · next hx => exact .ok ⟨isVarName_of_named hts hx, hts.of_cons⟩
    · exact (sound_iri t _ hts).bind fun _ hi => .ok (hi.map fun _ _ => rfl)
    · exact (sound_iri t _ hts).bind fun _ hi => .ok (hi.map fun _ _ => rfl)
    · split
      · exact (sound_literal t _ _ hts).bind fun _ hl => .ok (hl.map fun _ _ => rfl)
      · exact ensures_call t _ x rest hts.of_cons
    · exact (sound_literal t _ _ hts).bind fun _ hl => .ok (hl.map fun _ _ => rfl)
termination_by (ts.length, 2)

theorem ensures_call (t : Namespaces) (word : String) (x : Located) (ts : Tokens)
    (hts : All T ts) : Ensures (call t word x ts) (Reading.Sound T Expression.Grammatical) := by
  unfold call
  dsimp only
  split
  · exact .error _
  · split
    · exact .error _
    · split
      · exact .error _
      · next paren rest =>
        split
        · exact .error _
        · refine (ensures_arguments t _ paren rest hts.of_cons).bind fun r he => ?_
          obtain ⟨e, rest₁, h₁⟩ := r
          refine (sound_mark _ _ rest₁ he.2).bind fun r hparen => ?_
          obtain ⟨_, rest₂, h₂⟩ := r
          exact .ok ⟨he.1, hparen.2⟩
termination_by (ts.length, 1)

theorem ensures_arguments (t : Namespaces) (name : String) (paren : Located) (ts : Tokens)
    (hts : All T ts) :
    Ensures (arguments t name paren ts) (Reading.Sound T Expression.Grammatical) := by
  rw [arguments]
  split
  · exact ensures_boundArgument paren hts
  · split
    · refine (sound_disjunction t ts hts).bind fun r htarget => ?_
      obtain ⟨target, rest, h⟩ := r
      refine (ensures_regexArguments htarget.1 htarget.2).bind fun r hr => ?_
      exact .ok hr
    · split
      · next f hf =>
        refine (sound_disjunction t ts hts).bind fun r ha => ?_
        obtain ⟨a, rest₁, h₁⟩ := r
        refine (sound_mark _ _ rest₁ ha.2).bind fun r hcomma => ?_
        obtain ⟨_, rest₂, h₂⟩ := r
        refine (sound_disjunction t rest₂ hcomma.2).bind fun r hb => ?_
        obtain ⟨b, rest₃, h₃⟩ := r
        exact .ok ⟨grammatical_binaryFunction hf ha.1 hb.1, hb.2⟩
      · next f _ hf =>
        refine (sound_disjunction t ts hts).bind fun r hr => ?_
        exact .ok (hr.map fun e he => grammatical_unaryFunction hf he)
      · exact .error _
termination_by (ts.length, 7)

end

theorem sound_constraint (t : Namespaces) : Sound T (constraint t) Expression.Grammatical := by
  intro ts hts
  cases ts with
  | nil => exact .error _
  | cons x rest =>
    rw [constraint]
    split
    · refine (sound_disjunction t rest hts.of_cons).bind fun r he => ?_
      obtain ⟨e, rest₁, h₁⟩ := r
      refine (sound_mark _ _ rest₁ he.2).bind fun r hparen => ?_
      obtain ⟨_, rest₂, h₂⟩ := r
      exact .ok ⟨he.1, hparen.2⟩
    · split
      · exact .error _
      · exact ensures_call t _ x rest hts.of_cons
    · exact .error _

def PatternsGrammatical (ps : List TriplePattern) : Prop := ∀ p ∈ ps, p.Grammatical

theorem sound_predicateObjects (t : Namespaces) {s : Term} (hs : s.isLiteral = false)
    (hn : s.Named) : Sound T (predicateObjects t s) PatternsGrammatical := by
  intro ts hts
  unfold predicateObjects
  refine (sound_predicate t ts hts).bind fun p hp => ?_
  refine (Ensures.trivial _).bind fun _ _ => ?_
  have hobjects := Tokens.sound_commaSeparated (sound_object t) p.rest hp.2
  refine hobjects.bind fun objects hobj => .ok (.andThen (hobj.map fun os hos => ?_))
  intro pattern hpattern
  obtain ⟨o, ho, rfl⟩ := List.mem_map.1 hpattern
  refine ⟨hs, hp.1.1, ?_⟩
  simp only [TriplePattern.terms, List.forall_mem_cons]
  exact ⟨hn, hp.1.2, hos o ho, List.forall_mem_nil _⟩

theorem sound_statement (t : Namespaces) : Sound T (statement t) PatternsGrammatical := by
  intro ts hts
  unfold statement
  refine (sound_subject t ts hts).bind fun s hs => ?_
  have hpredicates : Sound T (predicates t s.value) PatternsGrammatical :=
    Tokens.sound_semicolonSeparated (sound_predicateObjects t hs.1.1 hs.1.2) atStatementEnd
  refine (hpredicates s.rest hs.2).bind fun r hr => ?_
  dsimp only
  split
  · next r' hskip => exact .ok (Reading.Sound.skip? hr hskip)
  · split
    · exact .ok hr
    · exact .error _

theorem sound_parts (t : Namespaces) (nested : Bool) :
    Sound T (parts t nested) Group.Grammatical := by
  intro ts hts
  cases ts with
  | nil =>
    rw [parts]
    exact .error _
  | cons x rest =>
    rw [parts]
    split
    · exact .ok ⟨Group.grammatical_empty, hts.of_cons⟩
    · exact (sound_parts t nested rest hts.of_cons).bind fun r hr => .ok hr
    · exact .error _
    · split
      · exact .error _
      · refine (sound_mark _ _ rest hts.of_cons).bind fun start hstart => ?_
        have hlt := start.shorter
        refine (sound_parts t true start.rest hstart.2).bind fun inner hinner => ?_
        have hlt' := inner.shorter
        refine (sound_parts t nested inner.rest hinner.2).bind fun r hr => .ok ?_
        have hblock : Block.Grammatical ⟨inner.value.required, inner.value.filters⟩ :=
          ⟨hinner.1.required, hinner.1.filters⟩
        exact ⟨⟨hr.1.required, List.forall_mem_cons.2 ⟨hblock, hr.1.optionals⟩, hr.1.filters⟩, hr.2⟩
    · refine (sound_constraint t rest hts.of_cons).bind fun e he => ?_
      have hlt := e.shorter
      refine (sound_parts t nested e.rest he.2).bind fun r hr => .ok ?_
      exact ⟨⟨hr.1.required, hr.1.optionals, List.forall_mem_cons.2 ⟨he.1, hr.1.filters⟩⟩, hr.2⟩
    · exact .error _
    · refine (sound_statement t (x :: rest) hts).bind fun patterns hpatterns => ?_
      have hlt := patterns.shorter
      refine (sound_parts t nested patterns.rest hpatterns.2).bind fun r hr => .ok ?_
      have hrequired := List.forall_mem_append.2 ⟨hpatterns.1, hr.1.required⟩
      exact ⟨⟨hrequired, hr.1.optionals, hr.1.filters⟩, hr.2⟩
termination_by ts => ts.length
decreasing_by all_goals grind

/-- A block has no blocks, so nothing is left out where its patterns and filters are kept. -/
theorem ensures_parts_nested (t : Namespaces) (ts : Tokens) :
    Ensures (parts t true ts) fun r => r.value.optionals = [] := by
  cases ts with
  | nil =>
    rw [parts]
    exact .error _
  | cons x rest =>
    rw [parts]
    split
    · exact .ok rfl
    · exact (ensures_parts_nested t rest).bind fun r hr => .ok hr
    · exact .error _
    · exact .error _
    · refine (Ensures.trivial _).bind fun e _ => ?_
      have hlt := e.shorter
      exact (ensures_parts_nested t e.rest).bind fun r hr => .ok hr
    · exact .error _
    · refine (Ensures.trivial _).bind fun patterns _ => ?_
      have hlt := patterns.shorter
      exact (ensures_parts_nested t patterns.rest).bind fun r hr => .ok hr
termination_by ts.length
decreasing_by all_goals grind

theorem sound_group (t : Namespaces) : Sound T (group t) Group.Grammatical := by
  intro ts hts
  unfold group
  refine (sound_mark _ _ ts hts).bind fun start hstart => ?_
  exact (sound_parts t false start.rest hstart.2).bind fun r hr => .ok hr

theorem sound_templateParts (t : Namespaces) : Sound T (templateParts t) PatternsGrammatical := by
  intro ts hts
  cases ts with
  | nil =>
    rw [templateParts]
    exact .error _
  | cons x rest =>
    rw [templateParts]
    split
    · exact .ok ⟨List.forall_mem_nil _, hts.of_cons⟩
    · split
      · exact (sound_templateParts t rest hts.of_cons).bind fun r hr => .ok hr
      · refine (sound_statement t (x :: rest) hts).bind fun patterns hpatterns => ?_
        have hlt := patterns.shorter
        refine (sound_templateParts t patterns.rest hpatterns.2).bind fun r hr => .ok ?_
        exact ⟨List.forall_mem_append.2 ⟨hpatterns.1, hr.1⟩, hr.2⟩
termination_by ts => ts.length
decreasing_by all_goals grind

theorem sound_template (t : Namespaces) : Sound T (template t) PatternsGrammatical := by
  intro ts hts
  unfold template
  refine (sound_mark _ _ ts hts).bind fun start hstart => ?_
  exact (sound_templateParts t start.rest hstart.2).bind fun r hr => .ok hr

end LinkedRaces.QueryParser
