import LinkedRaces.Proofs.Query.Parser.QuerySoundness
import LinkedRaces.Proofs.Rdf.Resolution

/-!
The constants that the parser puts into patterns can be written, if what the tokens refer to can and
the table only holds names that can. The declarations of a query keep the table that way.
-/

namespace LinkedRaces

/-- A variable, or what passes the check. -/
def Term.Written : Term → Prop
  | .var _ => True
  | c => c.check = .ok ()

def PatternsWritten (ps : List TriplePattern) : Prop := ∀ p ∈ ps, ∀ c ∈ p.terms, c.Written

def QueryForm.TemplateWritten (f : QueryForm) : Prop :=
  ∀ template, f = .construct template → PatternsWritten template

namespace QueryParser

open Tokens (All Sound ensures_took all_cons)

variable {t : Namespaces}

theorem namesWritable_keptByDeclarations :
    KeptByDeclarations Token.Regular Namespaces.NamesWritable where
  insert ht hbody := ht.insert _ (ht.resolve hbody.2).1 (ht.resolve hbody.2).2
  setBase ht hbody := ht.setBase (ht.resolve hbody.2).1 (ht.resolve hbody.2).2

theorem checks_iri (ht : t.NamesWritable) : Sound Token.Regular (iri t) (·.check = .ok ()) := by
  intro ts hts
  cases ts with
  | nil => exact .error _
  | cons x ts =>
    have hx := (all_cons.1 hts).1
    rw [iri]
    split
    · next body htoken =>
      have hnames : t.Names x.token (t.resolve body) := by
        rw [htoken]
        rfl
      exact ensures_took (P := fun i : Iri => i.check = .ok ()) (ht.check hx hnames) hts.of_cons
    · next label name htoken =>
      split
      · next i hi =>
        have hnames : t.Names x.token i := by
          rw [htoken]
          exact hi
        exact ensures_took (P := fun i : Iri => i.check = .ok ()) (ht.check hx hnames) hts.of_cons
      · exact .error _
    · exact .error _

theorem check_shorthand {token : Token} {l : Literal} (h : token.shorthand? = some l) :
    (Term.literal l).check = .ok () := by
  unfold Token.shorthand? at h
  split at h
  · cases h
    rfl
  · cases h
    rfl
  · cases h
    rfl
  · split at h
    · cases h
      rfl
    · cases h
  · cases h

theorem check_literal_of_datatype {l : Literal}
    (h : ∀ i, l.kind = .typed i → i.check = .ok ()) : (Term.literal l).check = .ok () := by
  cases hk : l.kind with
  | typed datatype => simpa [Term.check, Literal.datatype?, hk] using h datatype hk
  | _ => simp [Term.check, Literal.datatype?, hk]

theorem checks_literal (ht : t.NamesWritable) (fault : QueryFault) :
    Sound Token.Regular (literal t fault) fun l => (Term.literal l).check = .ok () := by
  intro ts hts
  cases ts with
  | nil => exact .error _
  | cons x ts =>
    rw [literal]
    split
    · exact (Tokens.ensures_quoted (checks_iri ht) _ x hts.of_cons).mono fun r hr =>
        ⟨check_literal_of_datatype hr.1, hr.2⟩
    · next l hl _ =>
      exact ensures_took (P := fun l : Literal => (Term.literal l).check = .ok ())
        (check_shorthand hl) hts.of_cons
    · exact .error _

theorem written_iri (ht : t.NamesWritable) {ts : Tokens} (hts : All Token.Regular ts) :
    Ensures (do return (← iri t ts).map Term.iri : Result Term ts)
      (Reading.Sound Token.Regular Term.Written) :=
  (checks_iri ht ts hts).bind fun _ hi => .ok (hi.map fun _ hcheck => hcheck)

theorem written_subject (ht : t.NamesWritable) : Sound Token.Regular (subject t) Term.Written := by
  intro ts hts
  cases ts with
  | nil => exact .error _
  | cons x ts =>
    rw [subject]
    split
    · exact ensures_took trivial hts.of_cons
    · exact written_iri ht hts
    · exact written_iri ht hts
    all_goals exact .error _

theorem written_predicate (ht : t.NamesWritable) :
    Sound Token.Regular (predicate t) Term.Written := by
  intro ts hts
  cases ts with
  | nil => exact .error _
  | cons x ts =>
    rw [predicate]
    split
    · exact ensures_took trivial hts.of_cons
    · split
      · have htype : (Term.iri Vocabulary.rdfType).Written := by
          show Vocabulary.rdfType.check = .ok ()
          rfl
        exact ensures_took htype hts.of_cons
      · exact .error _
    · exact written_iri ht hts
    · exact written_iri ht hts
    all_goals exact .error _

theorem written_object (ht : t.NamesWritable) : Sound Token.Regular (object t) Term.Written := by
  intro ts hts
  cases ts with
  | nil => exact .error _
  | cons x ts =>
    rw [object]
    split
    · exact ensures_took trivial hts.of_cons
    · exact written_iri ht hts
    · exact written_iri ht hts
    · exact .error _
    · exact .error _
    · exact .error _
    · exact (checks_literal ht _ _ hts).bind fun _ hl => .ok (hl.map fun _ hcheck => hcheck)

theorem written_predicateObjects (ht : t.NamesWritable) {s : Term} (hs : s.Written) :
    Sound Token.Regular (predicateObjects t s) PatternsWritten := by
  intro ts hts
  unfold predicateObjects
  refine (written_predicate ht ts hts).bind fun p hp => ?_
  refine (Ensures.trivial _).bind fun _ _ => ?_
  have hobjects := Tokens.sound_commaSeparated (written_object ht) p.rest hp.2
  refine hobjects.bind fun objects hobj => .ok (.andThen (hobj.map fun os hos => ?_))
  intro pattern hpattern
  obtain ⟨o, ho, rfl⟩ := List.mem_map.1 hpattern
  simp only [TriplePattern.terms, List.forall_mem_cons]
  exact ⟨hs, hp.1, hos o ho, List.forall_mem_nil _⟩

theorem written_statement (ht : t.NamesWritable) :
    Sound Token.Regular (statement t) PatternsWritten := by
  intro ts hts
  unfold statement
  refine (written_subject ht ts hts).bind fun s hs => ?_
  have hpredicates : Sound Token.Regular (predicates t s.value) PatternsWritten :=
    Tokens.sound_semicolonSeparated (written_predicateObjects ht hs.1) atStatementEnd
  refine (hpredicates s.rest hs.2).bind fun r hr => ?_
  dsimp only
  split
  · next r' hskip => exact .ok (Reading.Sound.skip? hr hskip)
  · split
    · exact .ok hr
    · exact .error _

theorem written_parts (ht : t.NamesWritable) (nested : Bool) :
    Sound Token.Regular (parts t nested) fun g => PatternsWritten g.required := by
  intro ts hts
  cases ts with
  | nil =>
    rw [parts]
    exact .error _
  | cons x rest =>
    rw [parts]
    split
    · exact .ok ⟨List.forall_mem_nil _, hts.of_cons⟩
    · exact (written_parts ht nested rest hts.of_cons).bind fun r hr => .ok hr
    · exact .error _
    · split
      · exact .error _
      · refine (sound_mark _ _ rest hts.of_cons).bind fun start hstart => ?_
        have hlt := start.shorter
        refine (written_parts ht true start.rest hstart.2).bind fun inner hinner => ?_
        have hlt' := inner.shorter
        exact (written_parts ht nested inner.rest hinner.2).bind fun r hr => .ok hr
    · refine (sound_constraint t rest hts.of_cons).bind fun e he => ?_
      have hlt := e.shorter
      exact (written_parts ht nested e.rest he.2).bind fun r hr => .ok hr
    · exact .error _
    · refine (written_statement ht (x :: rest) hts).bind fun patterns hpatterns => ?_
      have hlt := patterns.shorter
      refine (written_parts ht nested patterns.rest hpatterns.2).bind fun r hr => .ok ?_
      exact ⟨List.forall_mem_append.2 ⟨hpatterns.1, hr.1⟩, hr.2⟩
termination_by ts => ts.length
decreasing_by all_goals grind

theorem written_group (ht : t.NamesWritable) :
    Sound Token.Regular (group t) fun g => PatternsWritten g.required := by
  intro ts hts
  unfold group
  refine (sound_mark _ _ ts hts).bind fun start hstart => ?_
  exact (written_parts ht false start.rest hstart.2).bind fun r hr => .ok hr

theorem written_templateParts (ht : t.NamesWritable) :
    Sound Token.Regular (templateParts t) PatternsWritten := by
  intro ts hts
  cases ts with
  | nil =>
    rw [templateParts]
    exact .error _
  | cons x rest =>
    rw [templateParts]
    split
    · exact .ok ⟨List.forall_mem_nil _, hts.of_cons⟩
    · split
      · exact (written_templateParts ht rest hts.of_cons).bind fun r hr => .ok hr
      · refine (written_statement ht (x :: rest) hts).bind fun patterns hpatterns => ?_
        have hlt := patterns.shorter
        refine (written_templateParts ht patterns.rest hpatterns.2).bind fun r hr => .ok ?_
        exact ⟨List.forall_mem_append.2 ⟨hpatterns.1, hr.1⟩, hr.2⟩
termination_by ts => ts.length
decreasing_by all_goals grind

theorem written_template (ht : t.NamesWritable) :
    Sound Token.Regular (template t) PatternsWritten := by
  intro ts hts
  unfold template
  refine (sound_mark _ _ ts hts).bind fun start hstart => ?_
  exact (written_templateParts ht start.rest hstart.2).bind fun r hr => .ok hr

theorem ensures_groupThen_of_forall (t : Namespaces) (ts : Tokens) {α : Type} {f : Group → α}
    {P : α → Prop} (hf : ∀ g, P (f g)) : Ensures (groupThen t ts f) fun r => P r.1 :=
  (Ensures.trivial _).bind fun r _ => .ok (hf r.value)

theorem written_constructForm (ht : t.NamesWritable) (ts : Tokens)
    (hts : All Token.Regular ts) :
    Ensures (constructForm t ts) fun r => r.1.1.TemplateWritten := by
  unfold constructForm
  split
  · have hgroup : Ensures (groupThen t (skipKeyword "WHERE" ts) id) fun r =>
        PatternsWritten r.1.required :=
      (written_group ht _ (all_skipKeyword "WHERE" hts)).bind fun r hr => .ok hr.1
    refine hgroup.bind fun r hg => ?_
    obtain ⟨g, rest⟩ := r
    dsimp only
    split
    · refine .ok ?_
      rintro _ ⟨⟩
      exact hg
    · exact .error _
  · refine (written_template ht ts hts).bind fun r hpatterns => ?_
    obtain ⟨patterns, rest, h⟩ := r
    refine (Ensures.trivial _).bind fun _ _ => ?_
    split
    · refine ensures_groupThen_of_forall (P := fun r : QueryForm × Group => r.1.TemplateWritten) t _
        fun g => ?_
      rintro _ ⟨⟩
      exact hpatterns.1
    · exact .error _

theorem ensures_describeForm_form (t : Namespaces) (ts : Tokens) :
    Ensures (describeForm t ts) fun r => ∃ terms, r.1.1 = .describe terms := by
  unfold describeForm
  refine (Ensures.trivial _).bind fun r _ => ?_
  obtain ⟨terms, rest⟩ := r
  refine (Ensures.trivial _).bind fun _ _ => ?_
  split
  · exact ensures_groupThen_of_forall
      (P := fun r : QueryForm × Group => ∃ terms, r.1 = .describe terms) t _ fun _ => ⟨terms, rfl⟩
  · exact .ok ⟨terms, rfl⟩

theorem written_form (ht : t.NamesWritable) (ts : Tokens) (hts : All Token.Regular ts) :
    Ensures (form t ts) fun r => r.1.1.TemplateWritten := by
  cases ts with
  | nil => exact .error _
  | cons x rest =>
    rw [form]
    split
    · have hrest := all_distinctness rest hts.of_cons
      refine (ensures_selectForm t _ hrest).bind fun r hselect => ?_
      obtain ⟨⟨f, g⟩, rest'⟩ := r
      obtain ⟨p, rfl : f = .select p⟩ := hselect.1.2
      refine .ok ?_
      rintro _ ⟨⟩
    · refine (written_constructForm ht rest hts.of_cons).bind fun r hconstruct => ?_
      obtain ⟨⟨f, g⟩, rest'⟩ := r
      exact .ok hconstruct
    · refine ensures_groupThen_of_forall
        (P := fun r : QueryForm × Group × Bool => r.1.TemplateWritten) t _ fun g => ?_
      rintro _ ⟨⟩
    · refine (ensures_describeForm_form t rest).bind fun r hdescribe => ?_
      obtain ⟨⟨f, g⟩, rest'⟩ := r
      obtain ⟨terms, rfl : f = .describe terms⟩ := hdescribe
      refine .ok ?_
      rintro _ ⟨⟩
    · exact .error _

theorem written_query (ht : t.NamesWritable) (maxLimit : Nat) (ts : Tokens)
    (hts : All Token.Regular ts) :
    Ensures (query t maxLimit ts) fun q => q.form.TemplateWritten := by
  unfold query
  refine (ensures_prologue namesWritable_keptByDeclarations ht ts hts).bind fun r hr => ?_
  obtain ⟨t', rest⟩ := r
  refine (written_form hr.1 rest hr.2).bind fun r hform => ?_
  obtain ⟨⟨f, g, distinct⟩, rest'⟩ := r
  refine (Ensures.trivial _).bind fun r _ => ?_
  obtain ⟨m, rest''⟩ := r
  exact (Ensures.trivial _).bind fun _ _ => .ok hform

end QueryParser

namespace Query

def ReferencesWritable (text : String) : Prop :=
  ∀ tokens, tokenize text.toList = .ok tokens → ∀ x ∈ tokens, x.token.ReferenceWritable

instance : DecidablePred ReferencesWritable := fun text =>
  match h : tokenize text.toList with
  | .ok tokens =>
    decidable_of_iff (∀ x ∈ tokens, x.token.ReferenceWritable) (by simp [ReferencesWritable, h])
  | .error _ => .isTrue (by simp [ReferencesWritable, h])

theorem written_parseWith {t : Namespaces} (ht : t.NamesWritable) (maxLimit : Nat) {text : String}
    (href : ReferencesWritable text) :
    Ensures (parseWith t maxLimit text) fun q => q.form.TemplateWritten := by
  unfold parseWith
  split
  · exact .error _
  · next ts hts =>
    have hregular : Tokens.All Token.Regular ts := fun x hx =>
      ⟨spelled_tokenize _ ts hts x hx, href ts hts x hx⟩
    exact QueryParser.written_query ht maxLimit ts hregular

end Query

end LinkedRaces
