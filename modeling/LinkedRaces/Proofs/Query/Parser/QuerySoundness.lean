import LinkedRaces.Proofs.Grouping
import LinkedRaces.Proofs.Query.Parser.GroupSoundness

/-! What the parser reads is grammatical: forms, modifiers and whole queries. -/

namespace LinkedRaces.QueryParser

open Tokens (All Sound)

variable {T : Token → Prop} {t : Namespaces}

theorem all_skipKeyword (keyword : String) {ts : Tokens} (hts : All T ts) :
    All T (skipKeyword keyword ts) := by
  cases ts with
  | nil => exact hts
  | cons x rest =>
    rw [skipKeyword]
    split
    · exact hts.of_cons
    · exact hts

structure KeptByDeclarations (T : Token → Prop) (N : Namespaces → Prop) : Prop where
  insert : ∀ {t label body}, N t → T (.iri body) → N (t.insert label (t.resolve body).text)
  setBase : ∀ {t body}, N t → T (.iri body) → N (t.setBase (t.resolve body))

theorem ensures_prologue {N : Namespaces → Prop} (hN : KeptByDeclarations T N) {t : Namespaces}
    (ht : N t) (ts : Tokens) (hts : All T ts) :
    Ensures (prologue t ts) fun r => N r.1 ∧ All T r.2 := by
  cases ts with
  | nil =>
    rw [prologue]
    exact .ok ⟨ht, hts⟩
  | cons x rest =>
    rw [prologue]
    split
    · have hdeclaration := Tokens.sound_prefixDeclaration (hN.insert ht)
        (failureAfter .prefixName x) (failureAfter .prefixIri) rest hts.of_cons
      refine hdeclaration.bind fun r hr => ?_
      obtain ⟨t', rest', h⟩ := r
      exact ensures_prologue hN hr.1 rest' hr.2
    · split
      · have hreference := Tokens.sound_reference (I := fun i => N (t.setBase i)) (hN.setBase ht)
          (failureAfter .baseIri x) rest hts.of_cons
        have hbase : Ensures (baseDeclaration t x rest) (Reading.Sound T N) :=
          hreference.bind fun r hr => .ok hr
        refine hbase.bind fun r hr => ?_
        obtain ⟨t', rest', h⟩ := r
        exact ensures_prologue hN hr.1 rest' hr.2
      · exact .ok ⟨ht, hts⟩
termination_by ts.length
decreasing_by all_goals grind

variable [NamesVariables T]

theorem ensures_selected (ts : Tokens) (hts : All T ts) :
    Ensures (selected ts) fun r => (∀ name ∈ r.1, IsVarName name) ∧ All T r.2 := by
  induction ts with
  | nil => exact .ok ⟨List.forall_mem_nil _, hts⟩
  | cons x rest ih =>
    rw [selected.eq_def]
    dsimp only
    split
    · next hx =>
      have hname := isVarName_of_named hts hx
      refine (ih hts.of_cons).bind fun r hnames => ?_
      obtain ⟨names, rest'⟩ := r
      exact .ok ⟨List.forall_mem_cons.2 ⟨hname, hnames.1⟩, hnames.2⟩
    · split
      · split
        · exact .error _
        · exact .error _
      · exact .error _
    · exact .ok ⟨List.forall_mem_nil _, hts⟩

theorem ensures_projection (ts : Tokens) (hts : All T ts) :
    Ensures (projection ts) fun r => QueryForm.Grammatical (.select r.1) ∧ All T r.2 := by
  unfold projection
  split
  · exact .ok ⟨trivial, hts.of_cons⟩
  · refine (ensures_selected ts hts).bind fun r hnames => ?_
    obtain ⟨names, rest⟩ := r
    dsimp only
    split
    · exact .error _
    · next hempty =>
      have hne : names.eraseDups ≠ [] := by
        obtain ⟨name, hname⟩ := List.exists_mem_of_ne_nil names (by simpa using hempty)
        exact List.ne_nil_of_mem (List.mem_eraseDups.2 hname)
      have hvars : ∀ name ∈ names.eraseDups, IsVarName name := by
        intro name hname
        exact hnames.1 name (List.mem_eraseDups.1 hname)
      exact .ok ⟨⟨hne, nodup_eraseDups names, hvars⟩, hnames.2⟩

theorem ensures_groupThen (t : Namespaces) {ts : Tokens} (hts : All T ts) {α : Type}
    {f : Group → α} {P : α → Prop} (hf : ∀ g : Group, g.Grammatical → P (f g)) :
    Ensures (groupThen t ts f) fun r => P r.1 ∧ All T r.2 := by
  unfold groupThen
  refine (sound_group t ts hts).bind fun r hr => ?_
  exact .ok ⟨hf r.value hr.1, hr.2⟩

def FormGrammatical (r : QueryForm × Group) : Prop := r.1.Grammatical ∧ r.2.Grammatical

theorem ensures_selectForm (t : Namespaces) (ts : Tokens) (hts : All T ts) :
    Ensures (selectForm t ts) fun r =>
      (FormGrammatical r.1 ∧ ∃ p, r.1.1 = .select p) ∧ All T r.2 := by
  unfold selectForm
  refine (ensures_projection ts hts).bind fun r hp => ?_
  obtain ⟨p, rest⟩ := r
  refine (Ensures.trivial _).bind fun _ _ => ?_
  exact ensures_groupThen t (P := fun r => FormGrammatical r ∧ ∃ p, r.1 = .select p)
    (all_skipKeyword "WHERE" hp.2) fun g hg => ⟨⟨hp.1, hg⟩, p, rfl⟩

theorem ensures_constructForm (t : Namespaces) (ts : Tokens) (hts : All T ts) :
    Ensures (constructForm t ts) fun r => FormGrammatical r.1 ∧ All T r.2 := by
  unfold constructForm
  split
  · have hgroup : Ensures (groupThen t (skipKeyword "WHERE" ts) id) fun r =>
        r.1.Grammatical ∧ All T r.2 :=
      ensures_groupThen t (all_skipKeyword "WHERE" hts) fun g hg => hg
    refine hgroup.bind fun r hg => ?_
    obtain ⟨g, rest⟩ := r
    dsimp only
    split
    · exact .ok ⟨⟨hg.1.required, hg.1⟩, hg.2⟩
    · exact .error _
  · refine (sound_template t ts hts).bind fun r hpatterns => ?_
    obtain ⟨patterns, rest, h⟩ := r
    refine (Ensures.trivial _).bind fun _ _ => ?_
    split
    · exact ensures_groupThen t (all_skipKeyword "WHERE" hpatterns.2) fun g hg =>
        ⟨hpatterns.1, hg⟩
    · exact .error _

theorem ensures_described (t : Namespaces) (ts : Tokens) (hts : All T ts) :
    Ensures (described t ts) fun r => QueryForm.Grammatical (.describe r.1) ∧ All T r.2 := by
  induction ts with
  | nil => exact .ok ⟨List.forall_mem_nil _, hts⟩
  | cons x rest ih =>
    have hrest := ih hts.of_cons
    rw [described.eq_def]
    dsimp only
    split
    · next hx =>
      have hname := isVarName_of_named hts hx
      refine hrest.bind fun r hterms => ?_
      exact .ok ⟨List.forall_mem_cons.2 ⟨⟨rfl, hname⟩, hterms.1⟩, hterms.2⟩
    · refine (Ensures.trivial _).bind fun i _ => hrest.bind fun r hterms => ?_
      exact .ok ⟨List.forall_mem_cons.2 ⟨⟨rfl, trivial⟩, hterms.1⟩, hterms.2⟩
    · refine (Ensures.trivial _).bind fun i _ => hrest.bind fun r hterms => ?_
      exact .ok ⟨List.forall_mem_cons.2 ⟨⟨rfl, trivial⟩, hterms.1⟩, hterms.2⟩
    · exact .ok ⟨List.forall_mem_nil _, hts⟩

theorem ensures_resources (t : Namespaces) (ts : Tokens) (hts : All T ts) :
    Ensures (resources t ts) fun r => QueryForm.Grammatical (.describe r.1) ∧ All T r.2 := by
  unfold resources
  split
  · exact .ok ⟨List.forall_mem_nil _, hts.of_cons⟩
  · refine (ensures_described t ts hts).bind fun r hterms => ?_
    obtain ⟨terms, rest⟩ := r
    dsimp only
    split
    · exact .error _
    · exact .ok hterms

theorem ensures_describeForm (t : Namespaces) (ts : Tokens) (hts : All T ts) :
    Ensures (describeForm t ts) fun r => FormGrammatical r.1 ∧ All T r.2 := by
  unfold describeForm
  refine (ensures_resources t ts hts).bind fun r hterms => ?_
  obtain ⟨terms, rest⟩ := r
  refine (Ensures.trivial _).bind fun _ _ => ?_
  split
  · exact ensures_groupThen t (all_skipKeyword "WHERE" hterms.2) fun g hg => ⟨hterms.1, hg⟩
  · exact .ok ⟨⟨hterms.1, Group.grammatical_empty⟩, hterms.2⟩

omit [NamesVariables T] in
theorem all_distinctness (ts : Tokens) (hts : All T ts) : All T (distinctness ts).2 := by
  unfold distinctness
  split
  · exact all_skipKeyword "DISTINCT" hts
  · exact all_skipKeyword "REDUCED" hts

def QueryGrammatical (r : QueryForm × Group × Bool) : Prop :=
  FormGrammatical (r.1, r.2.1) ∧ (r.2.2 → ∃ p, r.1 = .select p)

theorem queryGrammatical_of_form {f : QueryForm} {g : Group} (h : FormGrammatical (f, g)) :
    QueryGrammatical (f, g, false) :=
  ⟨h, fun hdistinct => absurd hdistinct Bool.false_ne_true⟩

theorem ensures_form (t : Namespaces) (ts : Tokens) (hts : All T ts) :
    Ensures (form t ts) fun r => QueryGrammatical r.1 ∧ All T r.2 := by
  cases ts with
  | nil => exact .error _
  | cons x rest =>
    rw [form]
    split
    · have hrest := all_distinctness rest hts.of_cons
      refine (ensures_selectForm t _ hrest).bind fun r hselect => ?_
      obtain ⟨⟨f, g⟩, rest'⟩ := r
      exact .ok ⟨⟨hselect.1.1, fun _ => hselect.1.2⟩, hselect.2⟩
    · refine (ensures_constructForm t rest hts.of_cons).bind fun r hconstruct => ?_
      obtain ⟨⟨f, g⟩, rest'⟩ := r
      exact .ok ⟨queryGrammatical_of_form hconstruct.1, hconstruct.2⟩
    · exact ensures_groupThen t (all_skipKeyword "WHERE" hts.of_cons) fun g hg =>
        queryGrammatical_of_form ⟨trivial, hg⟩
    · refine (ensures_describeForm t rest hts.of_cons).bind fun r hdescribe => ?_
      obtain ⟨⟨f, g⟩, rest'⟩ := r
      exact .ok ⟨queryGrammatical_of_form hdescribe.1, hdescribe.2⟩
    · exact .error _

omit [NamesVariables T] in
theorem sound_count (clause : String) : Sound T (count clause) fun n => n ≤ maxCount := by
  intro ts hts
  unfold count
  split
  · split
    · exact .error _
    · exact .ok ⟨Nat.min_le_right _ _, hts.of_cons⟩
  · exact .error _

theorem sound_directedVariable : Sound T directedVariable IsVarName := by
  intro ts hts
  cases ts with
  | nil => exact .error _
  | cons paren rest =>
    rw [directedVariable.eq_def]
    dsimp only
    split
    · exact .error _
    · split
      · next rest' =>
        have hname := isVarName_of_named hts.of_cons rfl
        exact (sound_mark _ _ rest' hts.of_cons.of_cons).bind fun r hr => .ok ⟨hname, hr.2⟩
      · exact .error _

def KeyNamed (k : OrderKey) : Prop := IsVarName k.var

theorem ensures_orderKey? (ts : Tokens) (hts : All T ts) :
    Ensures (orderKey? ts) fun r => ∀ key ∈ r, key.Sound T KeyNamed := by
  cases ts with
  | nil => exact .ok (by simp)
  | cons x rest =>
    rw [orderKey?]
    split
    · next hx =>
      have hname := isVarName_of_named hts hx
      refine .ok ?_
      rintro _ ⟨⟩
      exact ⟨hname, hts.of_cons⟩
    · exact .error _
    · split
      · refine (sound_directedVariable rest hts.of_cons).bind fun r hr => .ok ?_
        rintro _ ⟨⟩
        exact hr
      · exact .ok (by simp)

theorem ensures_orderKeys (ts : Tokens) (hts : All T ts) :
    Ensures (orderKeys ts) (Reading.Sound T fun keys => ∀ k ∈ keys, KeyNamed k) := by
  rw [orderKeys]
  refine (ensures_orderKey? ts hts).bind fun r hr => ?_
  cases r with
  | none => exact .ok ⟨List.forall_mem_nil _, hts⟩
  | some key =>
    have hkey := hr key rfl
    have hlt := key.shorter
    refine (ensures_orderKeys key.rest hkey.2).bind fun keys hkeys => .ok ?_
    exact ⟨List.forall_mem_cons.2 ⟨hkey.1, hkeys.1⟩, hkeys.2⟩
termination_by ts.length

theorem sound_order : Sound T order fun keys => ∀ k ∈ keys, KeyNamed k := by
  intro ts hts
  cases ts with
  | nil => exact .error _
  | cons x rest =>
    rw [order]
    split
    · refine (ensures_orderKeys rest hts.of_cons).bind fun r hr => ?_
      split
      · exact .error _
      · exact .ok hr
    · exact .error _

structure ModifiersBounded (maxLimit : Nat) (m : Modifiers) : Prop where
  orderBy : ∀ k ∈ m.orderBy, KeyNamed k
  limit : m.limit ≤ maxLimit
  offset : m.offset ≤ maxCount

theorem ensures_modifiers (maxLimit : Nat) (m : Modifiers) (hm : ModifiersBounded maxLimit m)
    (ts : Tokens) (hts : All T ts) :
    Ensures (modifiers maxLimit m ts) fun r =>
      ModifiersBounded maxLimit r.1 ∧ r.1.distinct = m.distinct := by
  cases ts with
  | nil =>
    rw [modifiers]
    exact .ok ⟨hm, rfl⟩
  | cons x rest =>
    rw [modifiers]
    split
    · exact .error _
    · exact .error _
    · refine (sound_order rest hts.of_cons).bind fun r hkeys => ?_
      obtain ⟨keys, rest', h⟩ := r
      have hbounded : ModifiersBounded maxLimit { m with orderBy := m.orderBy ++ keys } :=
        ⟨List.forall_mem_append.2 ⟨hm.orderBy, hkeys.1⟩, hm.limit, hm.offset⟩
      exact ensures_modifiers maxLimit _ hbounded rest' hkeys.2
    · refine (sound_count "LIMIT" rest hts.of_cons).bind fun r hn => ?_
      obtain ⟨n, rest', h⟩ := r
      have hbounded : ModifiersBounded maxLimit { m with limit := min n maxLimit } :=
        ⟨hm.orderBy, Nat.min_le_right _ _, hm.offset⟩
      exact ensures_modifiers maxLimit _ hbounded rest' hn.2
    · refine (sound_count "OFFSET" rest hts.of_cons).bind fun r hn => ?_
      obtain ⟨n, rest', h⟩ := r
      have hbounded : ModifiersBounded maxLimit { m with offset := n } :=
        ⟨hm.orderBy, hm.limit, hn.1⟩
      exact ensures_modifiers maxLimit _ hbounded rest' hn.2
    · exact .ok ⟨hm, rfl⟩
termination_by ts.length
decreasing_by all_goals grind

theorem ensures_query (t : Namespaces) (maxLimit : Nat) (ts : Tokens) (hts : All T ts) :
    Ensures (query t maxLimit ts) fun q =>
      q.Grammatical ∧ ModifiersBounded maxLimit q.modifiers := by
  unfold query
  have hprologue := ensures_prologue (N := fun _ => True)
    ⟨fun _ _ => trivial, fun _ _ => trivial⟩ (t := t) trivial ts hts
  refine hprologue.bind fun r hrest => ?_
  obtain ⟨t', rest⟩ := r
  refine (ensures_form t' rest hrest.2).bind fun r hform => ?_
  obtain ⟨⟨f, g, distinct⟩, rest'⟩ := r
  have hinitial : ModifiersBounded maxLimit
      { Modifiers.ofLimit maxLimit with distinct := distinct } :=
    ⟨List.forall_mem_nil _, Nat.le_refl _, Nat.zero_le _⟩
  refine (ensures_modifiers maxLimit _ hinitial rest' hform.2).bind fun r hm => ?_
  obtain ⟨m, rest''⟩ := r
  refine (Ensures.trivial _).bind fun _ _ => .ok ⟨?_, hm.1⟩
  have hdistinct : m.distinct → ∃ p, f = .select p := by
    intro hd
    exact hform.1.2 (hm.2.symm.trans hd)
  exact ⟨hform.1.1.1, hform.1.1.2, hdistinct, hm.1.orderBy, hm.1.offset⟩

end LinkedRaces.QueryParser
