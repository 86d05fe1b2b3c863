import LinkedRaces.Proofs.Query.Parser.PromptForms

/-!
The keyword WHERE in front of the group of a query. Only the four forms take it, each once at most:
what they read before it ends in front of the group as well, and nothing behind it may be that
keyword. So a selection, a question or a description reads alike without it; a construction needs
it.
-/

namespace LinkedRaces.QueryParser

variable {α : Type} {P : Token → Prop} {F : Tokens → Outcome α} {t : Namespaces} {n : Nat} {a : α}
  {w : Located} {ts pre post rest : Tokens} {q : Query}

def wheres (ts : Tokens) : Nat := ts.countP fun x => x.token.isKeyword "WHERE"

theorem wheres_append (ts us : Tokens) : wheres (ts ++ us) = wheres ts + wheres us :=
  List.countP_append

theorem wheres_cons_of_keyword (hw : w.token.isKeyword "WHERE") (ts : Tokens) :
    wheres (w :: ts) = wheres ts + 1 :=
  List.countP_cons_of_pos hw

theorem wheres_eq_zero_iff : wheres ts = 0 ↔ ∀ x ∈ ts, NotWhere x.token := by
  simp [wheres, List.countP_eq_zero, NotWhere]

theorem wheres_around (hw : w.token.isKeyword "WHERE") (pre post : Tokens) :
    wheres (pre ++ w :: post) = wheres (pre ++ post) + 1 := by
  rw [wheres_append, wheres_cons_of_keyword hw, wheres_append]
  omega

theorem Prompt.exists_taken (h : Prompt P F ts) (hF : F ts = .ok (a, rest)) :
    ∃ taken, ts = taken ++ rest ∧ (∀ x ∈ taken, P x.token) ∧
      ∀ us, NextAlike rest us → F (taken ++ us) = .ok (a, us) := by
  cases h with
  | @ok taken rest' b holds same =>
    obtain ⟨rfl, rfl⟩ := Prod.mk.inj (Except.ok.inj (hF.symm.trans (same _ _ (.refl _) (.refl _))))
    exact ⟨taken, rfl, holds, fun us hus => same _ _ (.refl _) hus⟩
  | fails fault same => cases hF.symm.trans (same _ _ (.refl _) (.refl _))
  | stepsBack back same => cases hF.symm.trans (same _ _ (.refl _) (.refl _))
  | refuses more refused same =>
    obtain ⟨feature, h⟩ := refused _ _ (.refl _) (.refl _)
    cases hF.symm.trans h

theorem Prompt.wheres_eq (h : Prompt NotWhere F ts) (hF : F ts = .ok (a, rest)) :
    wheres ts = wheres rest := by
  obtain ⟨taken, rfl, holds, -⟩ := h.exists_taken hF
  rw [wheres_append, wheres_eq_zero_iff.2 holds, Nat.zero_add]

theorem Prompt.leaves (h : Prompt NotWhere F (pre ++ w :: post)) (hw : w.token.isKeyword "WHERE")
    (hF : F (pre ++ w :: post) = .ok (a, rest)) :
    ∃ taken pre', pre = taken ++ pre' ∧ rest = pre' ++ w :: post ∧
      ∀ us, NextAlike rest us → F (taken ++ us) = .ok (a, us) := by
  obtain ⟨taken, heq, holds, hsame⟩ := h.exists_taken hF
  rcases List.append_eq_append_iff.1 heq with ⟨more, rfl, hmore⟩ | ⟨pre', rfl, hrest⟩
  · cases more with
    | nil => exact ⟨pre, [], (List.append_nil pre).symm, hmore.symm, by simpa using hsame⟩
    | cons x more =>
      obtain ⟨rfl, -⟩ := List.cons.inj hmore
      have hnot := holds w (by simp)
      rw [NotWhere, hw] at hnot
      cases hnot
  · exact ⟨taken, pre', rfl, hrest, hsame⟩

def groupToEnd (t : Namespaces) (n : Nat) (f : Group → QueryForm × Group × Bool) (ts : Tokens) :
    Outcome Query :=
  Outcome.andThen (groupThen t ts f) (afterForm t n)

theorem afterForm_eq_ok {p : QueryForm × Group × Bool} (h : afterForm t n p ts = .ok (q, rest)) :
    q.form = p.1 ∧ wheres ts = 0 := by
  have hleft := (prompt_afterForm t n p ts).wheres_eq h
  unfold afterForm at h
  cases hm : modifiers n { Modifiers.ofLimit n with distinct := p.2.2 } ts with
  | error e =>
    rw [hm] at h
    cases h
  | ok r =>
    rw [hm, Outcome.andThen_ok] at h
    cases hf : finish r.2 with
    | error e =>
      rw [hf] at h
      cases h
    | ok u =>
      rw [hf] at h
      obtain ⟨rfl, rfl⟩ := Prod.mk.inj (Except.ok.inj h)
      exact ⟨rfl, hleft⟩

theorem andThen_eq_ok {α β : Type} {r : Outcome α} {K : α → Tokens → Outcome β} {p : β × Tokens} :
    Outcome.andThen r K = .ok p ↔ ∃ a rest, r = .ok (a, rest) ∧ K a rest = .ok p := by
  cases r with
  | error e => simp
  | ok r =>
    obtain ⟨a, rest⟩ := r
    simp

theorem groupToEnd_eq_ok {f : Group → QueryForm × Group × Bool}
    (h : groupToEnd t n f ts = .ok (q, rest)) : (∃ g, q.form = (f g).1) ∧ wheres ts = 0 := by
  obtain ⟨p, after, hgroup, hafter⟩ := andThen_eq_ok.1 h
  obtain ⟨hform, hnone⟩ := afterForm_eq_ok hafter
  refine ⟨?_, ((prompt_groupThen t f ts).wheres_eq hgroup).trans hnone⟩
  unfold groupThen at hgroup
  obtain ⟨r, -, hr⟩ := Scanner.bind_eq_ok.1 hgroup
  exact ⟨r.value, by rw [hform, ← (Prod.mk.inj (Except.ok.inj hr)).1]⟩

def OpensGroup (x : Token) : Prop := x.isKeyword "WHERE" ∨ x = .mark .openBrace

theorem exists_brace {f : Group → QueryForm × Group × Bool}
    (h : groupToEnd t n f ts = .ok (q, rest)) :
    ∃ x us, ts = x :: us ∧ x.token = .mark .openBrace := by
  obtain ⟨p, after, hgroup, -⟩ := andThen_eq_ok.1 h
  obtain ⟨r, hr, -⟩ := Scanner.bind_eq_ok.1 hgroup
  obtain ⟨start, hstart, -⟩ := Scanner.bind_eq_ok.1 hr
  cases ts with
  | nil => cases hstart
  | cons x us =>
    by_cases hx : x.token = .mark .openBrace
    · exact ⟨x, us, rfl, hx⟩
    · simp [mark, Tokens.mark, hx] at hstart

theorem groupToEnd_without {f : Group → QueryForm × Group × Bool} (hw : w.token.isKeyword "WHERE")
    (h : groupToEnd t n f (skipKeyword "WHERE" (pre ++ w :: post)) = .ok (q, rest)) :
    pre = [] ∧ (∃ x us, post = x :: us ∧ x.token = .mark .openBrace) ∧
      groupToEnd t n f (skipKeyword "WHERE" post) = .ok (q, rest) := by
  cases pre with
  | nil =>
    rw [List.nil_append, skipKeyword, if_pos hw] at h
    obtain ⟨x, us, rfl, hx⟩ := exists_brace h
    refine ⟨rfl, ⟨x, us, rfl, hx⟩, ?_⟩
    rwa [skipKeyword, hx, if_neg (by decide)]
  | cons x pre =>
    have hnone := (groupToEnd_eq_ok h).2
    rw [List.cons_append, skipKeyword] at hnone
    split at hnone
    · rw [wheres_around hw] at hnone
      cases hnone
    · rw [← List.cons_append, wheres_around hw] at hnone
      cases hnone

theorem isKeyword_of_opensGroup {x : Token} (h : OpensGroup x) {keyword : String}
    (hne : (Token.word "WHERE").isKeyword keyword = false) : x.isKeyword keyword = false := by
  rcases h with h | rfl
  · rw [(alike_where h).isKeyword_eq, hne]
  · rfl

theorem rejectDataset_of_opensGroup {x : Located} (h : OpensGroup x.token) (rest : Tokens) :
    rejectDataset (x :: rest) = .ok () := by
  rw [rejectDataset, nextIs, isKeyword_of_opensGroup h rfl]
  rfl

-- The brace is not alike the keyword, so that it may stand in its place does not follow from what
-- the next token settles.
/-- If `F` ends in front of the keyword or a group, it ends in front of any other of these. -/
def StopsAt (F : Tokens → Outcome α) (ts : Tokens) : Prop :=
  ∀ a x rest, OpensGroup x.token → F ts = .ok (a, x :: rest) →
    ∃ taken, ts = taken ++ x :: rest ∧
      ∀ y us, OpensGroup y.token → F (taken ++ y :: us) = .ok (a, y :: us)

namespace StopsAt

variable {x : Located}

theorem error {e : QueryError} (h : F ts = .error e) : StopsAt F ts := by
  intro a x rest _ hF
  cases h.symm.trans hF

theorem nil (h : F [] = .ok (a, [])) : StopsAt F [] := by
  intro b x rest _ hF
  cases h.symm.trans hF

theorem here (h : F (x :: ts) = .ok (a, x :: ts))
    (hstay : ∀ y us, OpensGroup y.token → F (y :: us) = .ok (a, y :: us)) :
    StopsAt F (x :: ts) := by
  intro b y rest _ hF
  cases h.symm.trans hF
  exact ⟨[], rfl, hstay⟩

theorem cons {g : α → α} (hstep : ∀ us, F (x :: us) =
    Outcome.andThen (F us) fun b rest => .ok (g b, rest)) (h : StopsAt F ts) :
    StopsAt F (x :: ts) := by
  intro b y rest hy hF
  rw [hstep] at hF
  obtain ⟨c, after, hread, heq⟩ := andThen_eq_ok.1 hF
  cases heq
  obtain ⟨taken, rfl, hstops⟩ := h c y rest hy hread
  refine ⟨x :: taken, rfl, fun z us hz => ?_⟩
  rw [List.cons_append, hstep, hstops z us hz]
  rfl

theorem starred {G : Tokens → Outcome α} (hG : StopsAt G ts)
    (hstar : ∀ text rest, F (⟨.mark .star, text⟩ :: rest) = .ok (a, rest))
    (hother : ∀ ts, NextIsNot (· = .mark .star) ts → F ts = G ts) : StopsAt F ts := by
  intro b x rest hx hF
  rcases next_mark_cases .star ts with ⟨text, rest', rfl⟩ | hnext
  · cases (hstar text rest').symm.trans hF
    exact ⟨[⟨.mark .star, text⟩], rfl, fun y us _ => hstar text (y :: us)⟩
  · obtain ⟨taken, rfl, hstops⟩ := hG b x rest hx ((hother ts hnext).symm.trans hF)
    refine ⟨taken, rfl, fun y us hy => (hother _ ?_).trans (hstops y us hy)⟩
    cases taken with
    | nil =>
      refine nextIsNot_cons (fun hstar => ?_) us
      rw [OpensGroup, hstar] at hy
      rcases hy with hy | hy <;> cases hy
    | cons z taken => exact nextIsNot_cons (hnext z rfl) _

theorem checked {β : Type} {F : Tokens → Outcome β} {K : β → Tokens → Outcome α}
    (hK : ∀ b rest, (∃ e, K b rest = .error e) ∨ ∃ a, ∀ us, K b us = .ok (a, us))
    (h : StopsAt F ts) : StopsAt (fun us => Outcome.andThen (F us) K) ts := by
  intro a x rest hx hF
  obtain ⟨b, after, hread, hread'⟩ := andThen_eq_ok.1 hF
  rcases hK b after with ⟨e, herror⟩ | ⟨a', hok⟩
  · cases herror.symm.trans hread'
  · cases (hok after).symm.trans hread'
    obtain ⟨taken, rfl, hstops⟩ := h b x rest hx hread
    refine ⟨taken, rfl, fun y us hy => ?_⟩
    change Outcome.andThen (F (taken ++ y :: us)) K = _
    rw [hstops y us hy, Outcome.andThen_ok, hok]

end StopsAt

theorem selected_of_opensGroup {x : Located} (h : OpensGroup x.token) (rest : Tokens) :
    selected (x :: rest) = .ok ([], x :: rest) := by
  obtain ⟨tok, text⟩ := x
  rcases h with h | rfl
  · cases tok with
    | word _ => rfl
    | _ => cases h
  · rfl

theorem stopsAt_selected (ts : Tokens) : StopsAt selected ts := by
  induction ts with
  | nil => exact .nil rfl
  | cons x ts ih =>
    obtain ⟨tok, text⟩ := x
    have hstay (y : Located) (us : Tokens) (hy : OpensGroup y.token) :
        selected (y :: us) = .ok ([], y :: us) := selected_of_opensGroup hy us
    cases tok with
    | var name => exact .cons (g := (name :: ·)) (fun us => rfl) ih
    | mark m =>
      cases m with
      | openParen => exact .error (selected_openParen text ts)
      | _ => exact .here rfl hstay
    | _ => exact .here rfl hstay

theorem stopsAt_projection (ts : Tokens) : StopsAt projection ts := by
  have hsome : StopsAt (fun us => Outcome.andThen (selected us) fun names rest =>
      if names.isEmpty then fail .selected rest
      else .ok (Projection.vars names.eraseDups, rest)) ts := by
    refine (stopsAt_selected ts).checked ?_
    rintro (_ | ⟨name, names⟩) rest
    · exact .inl ⟨_, rfl⟩
    · exact .inr ⟨_, fun _ => rfl⟩
  exact hsome.starred (fun _ _ => rfl) fun ts h => projection_of_nextIsNot h

theorem described_of_opensGroup {x : Located} (h : OpensGroup x.token) (t : Namespaces)
    (rest : Tokens) : described t (x :: rest) = .ok ([], x :: rest) := by
  obtain ⟨tok, text⟩ := x
  rcases h with h | rfl
  · cases tok with
    | word _ => rfl
    | _ => cases h
  · rfl

theorem stopsAt_described (t : Namespaces) (ts : Tokens) : StopsAt (described t) ts := by
  induction ts with
  | nil => exact .nil rfl
  | cons x ts ih =>
    obtain ⟨tok, text⟩ := x
    have hstay (y : Located) (us : Tokens) (hy : OpensGroup y.token) :=
      described_of_opensGroup hy t us
    cases tok with
    | var name => exact .cons (g := (.var name :: ·)) (fun us => rfl) ih
    | iri body => exact .cons (g := (.iri (t.resolve body) :: ·)) (fun us => rfl) ih
    | «prefixed» label name =>
      cases hexpand : t.expand? label name with
      | some i =>
        refine .cons (g := (.iri i :: ·)) (fun us => ?_) ih
        simp only [described, iri, hexpand]
        rfl
      | none =>
        refine .error (e := failure (.unknownPrefix label) (⟨.prefixed label name, text⟩ :: ts)) ?_
        simp only [described, iri, hexpand]
        rfl
    | _ => exact .here rfl hstay

theorem stopsAt_resources (t : Namespaces) (ts : Tokens) : StopsAt (resources t) ts := by
  have hsome : StopsAt (fun us => Outcome.andThen (described t us) fun terms rest =>
      if terms.isEmpty then fail .described rest else .ok (terms, rest)) ts := by
    refine (stopsAt_described t ts).checked ?_
    rintro (_ | ⟨term, terms⟩) rest
    · exact .inl ⟨_, rfl⟩
    · exact .inr ⟨_, fun _ => rfl⟩
  exact hsome.starred (fun _ _ => rfl) fun ts h => resources_of_nextIsNot t h

theorem exists_distinctness (pre : Tokens) :
    ∃ distinct pre', ∀ y us, OpensGroup y.token →
      distinctness (pre ++ y :: us) = (distinct, pre' ++ y :: us) := by
  cases pre with
  | nil =>
    refine ⟨false, [], fun y us hy => ?_⟩
    simp only [distinctness, nextIs, skipKeyword, List.nil_append,
      isKeyword_of_opensGroup hy (show (Token.word "WHERE").isKeyword "DISTINCT" = false from rfl),
      isKeyword_of_opensGroup hy (show (Token.word "WHERE").isKeyword "REDUCED" = false from rfl),
      Bool.false_eq_true, if_false]
  | cons x pre =>
    cases hx : x.token.isKeyword "DISTINCT" with
    | true =>
      refine ⟨true, pre, fun y us _ => ?_⟩
      simp only [distinctness, nextIs, skipKeyword, List.cons_append, hx, if_true]
    | false =>
      cases hx' : x.token.isKeyword "REDUCED" with
      | true =>
        refine ⟨false, pre, fun y us _ => ?_⟩
        simp only [distinctness, nextIs, skipKeyword, List.cons_append, hx, hx',
          Bool.false_eq_true, if_false, if_true]
      | false =>
        refine ⟨false, x :: pre, fun y us _ => ?_⟩
        simp only [distinctness, nextIs, skipKeyword, List.cons_append, hx, hx',
          Bool.false_eq_true, if_false]

def formToEnd (t : Namespaces) (n : Nat) (ts : Tokens) : Outcome Query :=
  Outcome.andThen (form t ts) (afterForm t n)

theorem andThen_without {K : α → Tokens → Outcome Query} (hw : w.token.isKeyword "WHERE")
    (hF : Prompt NotWhere F (pre ++ w :: post)) (hstops : StopsAt F (pre ++ w :: post))
    (hK : ∀ a pre', K a (pre' ++ w :: post) = .ok (q, rest) → pre' = [] ∧
      (∃ x us, post = x :: us ∧ x.token = .mark .openBrace) ∧ K a post = .ok (q, rest))
    (h : Outcome.andThen (F (pre ++ w :: post)) K = .ok (q, rest)) :
    (∃ x us, post = x :: us ∧ x.token = .mark .openBrace) ∧
      Outcome.andThen (F (pre ++ post)) K = .ok (q, rest) := by
  obtain ⟨a, after, hread, hafter⟩ := andThen_eq_ok.1 h
  obtain ⟨taken, pre', -, rfl, -⟩ := hF.leaves hw hread
  obtain ⟨rfl, ⟨x, us, rfl, hx⟩, hgroup⟩ := hK a pre' hafter
  obtain ⟨taken, htaken, hstops⟩ := hstops a w (x :: us) (.inl hw) hread
  obtain rfl := List.append_cancel_right htaken
  refine ⟨⟨x, us, rfl, hx⟩, ?_⟩
  rw [hstops x us (.inr hx), Outcome.andThen_ok, hgroup]

def selectToEnd (t : Namespaces) (n : Nat) (distinct : Bool) (p : Projection) (ts : Tokens) :
    Outcome Query :=
  Except.bind (rejectDataset ts) fun _ =>
    groupToEnd t n (fun g => (.select p, g, distinct)) (skipKeyword "WHERE" ts)

theorem formToEnd_select {k : Located} (hk : formKeyword? k.token = some .select) (us : Tokens) :
    formToEnd t n (k :: us) =
      Outcome.andThen (projection (distinctness us).2) (selectToEnd t n (distinctness us).1) := by
  simp only [formToEnd, form, hk, selectForm, bind]
  cases projection (distinctness us).2 with
  | error e => rfl
  | ok p =>
    simp only [Except.bind, Outcome.andThen, selectToEnd, groupToEnd]
    cases rejectDataset p.2 with
    | error e => rfl
    | ok u =>
      dsimp only
      unfold groupThen
      cases group t (skipKeyword "WHERE" p.2) <;> rfl

theorem formToEnd_ask {k : Located} (hk : formKeyword? k.token = some .ask) (us : Tokens) :
    formToEnd t n (k :: us) =
      groupToEnd t n (fun g => (.ask, g, false)) (skipKeyword "WHERE" us) := by
  simp only [formToEnd, form, hk, groupToEnd]

def describeToEnd (t : Namespaces) (n : Nat) (terms : List Term) (ts : Tokens) : Outcome Query :=
  Except.bind (rejectDataset ts) fun _ =>
    if nextIs "WHERE" ts || opensGroup ts then
      groupToEnd t n (fun g => (.describe terms, g, false)) (skipKeyword "WHERE" ts)
    else afterForm t n (.describe terms, .empty, false) ts

theorem formToEnd_describe {k : Located} (hk : formKeyword? k.token = some .describe)
    (us : Tokens) :
    formToEnd t n (k :: us) = Outcome.andThen (resources t us) (describeToEnd t n) := by
  simp only [formToEnd, form, hk, describeForm, bind]
  cases resources t us with
  | error e => rfl
  | ok p =>
    simp only [Except.bind, Outcome.andThen, describeToEnd, groupToEnd]
    cases rejectDataset p.2 with
    | error e => rfl
    | ok u =>
      dsimp only
      cases nextIs "WHERE" p.2 || opensGroup p.2 with
      | false => rfl
      | true =>
        unfold groupThen
        cases group t (skipKeyword "WHERE" p.2) <;> rfl

theorem formToEnd_construct {k : Located} (hk : formKeyword? k.token = some .construct)
    (us : Tokens) : formToEnd t n (k :: us) =
      if nextIs "WHERE" us then
        Outcome.andThen (groupThen t (skipKeyword "WHERE" us) id) fun g rest =>
          Outcome.andThen (if g.isPlain then .ok ((.construct g.required, g, false), rest)
            else fail .plainPatterns rest) (afterForm t n)
      else
        Outcome.andThen (plain (template t us)) fun patterns rest =>
          Except.bind (rejectDataset rest) fun _ =>
            if nextIs "WHERE" rest then
              groupToEnd t n (fun g => (.construct patterns, g, false)) (skipKeyword "WHERE" rest)
            else fail .whereAfterTemplate rest := by
  simp only [formToEnd, form, hk, constructForm, groupToEnd, bind]
  cases nextIs "WHERE" us with
  | true =>
    simp only [if_true, Except.bind, Outcome.andThen]
    cases groupThen t (skipKeyword "WHERE" us) id with
    | error e => rfl
    | ok p =>
      dsimp only
      cases p.1.isPlain <;> rfl
  | false =>
    simp only [Bool.false_eq_true, if_false, Except.bind, Outcome.andThen]
    cases template t us with
    | error e => rfl
    | ok r =>
      dsimp only [plain_ok]
      cases rejectDataset r.rest with
      | error e => rfl
      | ok u =>
        dsimp only
        cases nextIs "WHERE" r.rest with
        | false => rfl
        | true =>
          unfold groupThen
          cases group t (skipKeyword "WHERE" r.rest) <;> rfl

theorem wheres_of_nextIs (h : nextIs "WHERE" ts) :
    wheres ts = wheres (skipKeyword "WHERE" ts) + 1 := by
  cases ts with
  | nil => cases h
  | cons x rest =>
    have hx : x.token.isKeyword "WHERE" := h
    rw [skipKeyword, if_pos hx, wheres_cons_of_keyword hx]

theorem bind_eq_ok {β : Type} {c : Except QueryError Unit} {r : Except QueryError β} {b : β}
    (h : Except.bind c (fun _ => r) = .ok b) : c = .ok () ∧ r = .ok b := by
  cases c with
  | error e => cases h
  | ok u => exact ⟨rfl, h⟩

theorem wheres_of_construct {k : Located} (hk : formKeyword? k.token = some .construct)
    {us : Tokens} (h : formToEnd t n (k :: us) = .ok (q, rest)) :
    wheres us = 1 ∧ ∃ patterns, q.form = .construct patterns := by
  rw [formToEnd_construct hk] at h
  cases hnext : nextIs "WHERE" us with
  | true =>
    rw [hnext, if_pos rfl] at h
    obtain ⟨g, after, hgroup, hplain⟩ := andThen_eq_ok.1 h
    obtain ⟨p, after', hform, hafter⟩ := andThen_eq_ok.1 hplain
    split at hform
    next =>
      obtain ⟨rfl, rfl⟩ := Prod.mk.inj (Except.ok.inj hform)
      obtain ⟨hform, hnone⟩ := afterForm_eq_ok hafter
      have hleft := (prompt_groupThen t id _).wheres_eq hgroup
      exact ⟨by rw [wheres_of_nextIs hnext, hleft, hnone], _, hform⟩
    next => cases hform
  | false =>
    rw [hnext, if_neg Bool.false_ne_true] at h
    obtain ⟨patterns, after, htemplate, hbind⟩ := andThen_eq_ok.1 h
    obtain ⟨-, hgroup⟩ := bind_eq_ok hbind
    cases hwhere : nextIs "WHERE" after with
    | false =>
      rw [hwhere] at hgroup
      cases hgroup
    | true =>
      rw [hwhere, if_pos rfl] at hgroup
      obtain ⟨⟨g, hform⟩, hnone⟩ := groupToEnd_eq_ok hgroup
      have hleft := (prompt_template t us).wheres_eq htemplate
      exact ⟨by rw [hleft, wheres_of_nextIs hwhere, hnone], _, hform⟩

def WithoutWhere (q : Query) (r : Outcome Query) : Prop :=
  match q.form with
  | .construct _ => ∀ p, r ≠ .ok p
  | _ => r = .ok (q, [])

theorem form_of_selectToEnd {distinct : Bool} {p : Projection}
    (h : selectToEnd t n distinct p ts = .ok (q, rest)) : q.form = .select p := by
  obtain ⟨⟨g, hform⟩, -⟩ := groupToEnd_eq_ok (bind_eq_ok h).2
  exact hform

theorem selectToEnd_without {distinct : Bool} (hw : w.token.isKeyword "WHERE") (p : Projection)
    (pre : Tokens) (h : selectToEnd t n distinct p (pre ++ w :: post) = .ok (q, rest)) :
    pre = [] ∧ (∃ x us, post = x :: us ∧ x.token = .mark .openBrace) ∧
      selectToEnd t n distinct p post = .ok (q, rest) := by
  obtain ⟨hpre, ⟨x, us, rfl, hx⟩, hgroup⟩ := groupToEnd_without hw (bind_eq_ok h).2
  refine ⟨hpre, ⟨x, us, rfl, hx⟩, ?_⟩
  rw [selectToEnd, rejectDataset_of_opensGroup (.inr hx)]
  exact hgroup

theorem form_of_describeToEnd {terms : List Term} (h : describeToEnd t n terms ts = .ok (q, rest)) :
    q.form = .describe terms := by
  have h := (bind_eq_ok h).2
  split at h
  · obtain ⟨⟨g, hform⟩, -⟩ := groupToEnd_eq_ok h
    exact hform
  · exact (afterForm_eq_ok h).1

theorem describeToEnd_without (hw : w.token.isKeyword "WHERE") (terms : List Term) (pre : Tokens)
    (h : describeToEnd t n terms (pre ++ w :: post) = .ok (q, rest)) :
    pre = [] ∧ (∃ x us, post = x :: us ∧ x.token = .mark .openBrace) ∧
      describeToEnd t n terms post = .ok (q, rest) := by
  have h := (bind_eq_ok h).2
  split at h
  next =>
    obtain ⟨hpre, ⟨x, us, rfl, hx⟩, hgroup⟩ := groupToEnd_without hw h
    have hopens : opensGroup (x :: us) = true := by simp [opensGroup, hx]
    refine ⟨hpre, ⟨x, us, rfl, hx⟩, ?_⟩
    rw [describeToEnd, rejectDataset_of_opensGroup (.inr hx), hopens, Bool.or_true, if_pos rfl]
    exact hgroup
  next =>
    have hnone := (afterForm_eq_ok h).2
    rw [wheres_around hw] at hnone
    cases hnone

theorem formToEnd_without (hw : w.token.isKeyword "WHERE") {k : Located}
    (h : formToEnd t n (k :: (pre ++ w :: post)) = .ok (q, [])) :
    WithoutWhere q (formToEnd t n (k :: (pre ++ post))) := by
  cases hk : formKeyword? k.token with
  | none => simp [formToEnd, form, hk, fail] at h
  | some keyword =>
    cases keyword with
    | select =>
      obtain ⟨distinct, pre', hdistinct⟩ := exists_distinctness pre
      rw [formToEnd_select hk, hdistinct w post (.inl hw)] at h
      obtain ⟨p, after, -, hend⟩ := andThen_eq_ok.1 h
      have hform := form_of_selectToEnd hend
      obtain ⟨⟨x, us, rfl, hx⟩, hwithout⟩ := andThen_without hw (prompt_projection _)
        (stopsAt_projection _) (selectToEnd_without hw) h
      rw [formToEnd_select hk, hdistinct x us (.inr hx)]
      simpa only [WithoutWhere, hform] using hwithout
    | construct =>
      obtain ⟨hone, patterns, hform⟩ := wheres_of_construct hk h
      rw [wheres_around hw] at hone
      simp only [WithoutWhere, hform]
      rintro ⟨p, rest⟩ hp
      have := (wheres_of_construct hk hp).1
      omega
    | ask =>
      rw [formToEnd_ask hk] at h ⊢
      obtain ⟨⟨g, hform⟩, -⟩ := groupToEnd_eq_ok h
      obtain ⟨rfl, -, hwithout⟩ := groupToEnd_without hw h
      simpa only [WithoutWhere, hform, List.nil_append] using hwithout
    | describe =>
      rw [formToEnd_describe hk] at h ⊢
      obtain ⟨terms, after, -, hend⟩ := andThen_eq_ok.1 h
      have hform := form_of_describeToEnd hend
      obtain ⟨-, hwithout⟩ := andThen_without hw (prompt_resources t _) (stopsAt_resources t _)
        (describeToEnd_without hw) h
      simpa only [WithoutWhere, hform] using hwithout

theorem query_without (hw : w.token.isKeyword "WHERE")
    (h : query t n (pre ++ w :: post) = .ok q) :
    WithoutWhere q ((query t n (pre ++ post)).map (·, [])) := by
  have hmap : (query t n (pre ++ w :: post)).map (·, ([] : Tokens)) = .ok (q, []) := by
    rw [h]
    rfl
  rw [map_query] at hmap ⊢
  obtain ⟨t', after, hprologue, hform⟩ := andThen_eq_ok.1 hmap
  obtain ⟨taken, pre', rfl, rfl, hsame⟩ := (prompt_prologue t _).leaves hw hprologue
  cases pre' with
  | nil =>
    have hnone : formKeyword? w.token = none := formKeyword?_congr (alike_where hw)
    simp [form, hnone, fail] at hform
  | cons k pre =>
    rw [List.append_assoc, List.cons_append, hsame (k :: (pre ++ post)) (.cons (.refl _))]
    exact formToEnd_without hw hform

end LinkedRaces.QueryParser

namespace LinkedRaces.Query

open QueryParser

variable {t : Namespaces} {n : Nat} {a b : String} {w : Located} {pre post ls : Tokens} {q : Query}

/-- The keyword WHERE may be left out of a query, wherever it stands: the query stays the same. Only
a construction needs it, and is no query without it. -/
theorem parseWith_without_where (ha : tokenize a.toList = .ok (pre ++ w :: post))
    (hw : w.token.isKeyword "WHERE") (hb : tokenize b.toList = .ok ls)
    (hls : ls.map Located.token = (pre ++ post).map Located.token)
    (hq : parseWith t n a = .ok q) :
    match q.form with
    | .construct _ => ∀ q', parseWith t n b ≠ .ok q'
    | _ => parseWith t n b = .ok q := by
  rw [parseWith_of_tokenize ha] at hq
  rw [parseWith_of_tokenize hb]
  have hwithout := query_without hw hq
  have hsame := sameOutcome_query t n (allAlike_of_tokens hls)
  generalize query t n (pre ++ post) = r at hwithout hsame
  generalize query t n ls = s at hsame
  unfold WithoutWhere at hwithout
  split at hwithout
  next =>
    rintro q' rfl
    cases hsame
    exact hwithout _ rfl
  next =>
    obtain rfl := map_nil_injective (s := .ok q) hwithout
    cases hsame
    rfl

theorem parseWith_without_where_selection :
    let pre : Tokens := [⟨.word "SELECT", "SELECT ?s where \x7b ?s ?p ?o \x7d".toList⟩,
      ⟨.var "s", "?s where \x7b ?s ?p ?o \x7d".toList⟩]
    let w : Located := ⟨.word "where", "where \x7b ?s ?p ?o \x7d".toList⟩
    let post : Tokens := [⟨.mark .openBrace, "\x7b ?s ?p ?o \x7d".toList⟩,
      ⟨.var "s", "?s ?p ?o \x7d".toList⟩, ⟨.var "p", "?p ?o \x7d".toList⟩,
      ⟨.var "o", "?o \x7d".toList⟩, ⟨.mark .closeBrace, "\x7d".toList⟩]
    let q : Query := ⟨.select (.vars ["s"]), ⟨[⟨.var "s", .var "p", .var "o"⟩], [], []⟩,
      .ofLimit defaultLimit, .wellKnown⟩
    tokenize "SELECT ?s where \x7b ?s ?p ?o \x7d".toList = .ok (pre ++ w :: post) ∧
      w.token.isKeyword "WHERE" ∧ parse "SELECT ?s where \x7b ?s ?p ?o \x7d" = .ok q ∧
      parse "SELECT ?s \x7b ?s ?p ?o \x7d" = .ok q := by
  intro pre w post q
  let ls : Tokens := [⟨.word "SELECT", "SELECT ?s \x7b ?s ?p ?o \x7d".toList⟩,
    ⟨.var "s", "?s \x7b ?s ?p ?o \x7d".toList⟩] ++ post
  have ha : tokenize "SELECT ?s where \x7b ?s ?p ?o \x7d".toList = .ok (pre ++ w :: post) := by
    decide +kernel
  have hb : tokenize "SELECT ?s \x7b ?s ?p ?o \x7d".toList = .ok ls := by decide +kernel
  have hw : w.token.isKeyword "WHERE" := by decide
  have hq : parse "SELECT ?s where \x7b ?s ?p ?o \x7d" = .ok q := by decide +kernel
  have hls : ls.map Located.token = (pre ++ post).map Located.token := by
    simp only [ls, pre, List.map_append, List.map_cons]
  have hwithout := parseWith_without_where (t := .wellKnown) (n := defaultLimit) ha hw hb hls hq
  exact ⟨ha, hw, hq, hwithout⟩

theorem parse_construct_without_where :
    let pre : List Token := [.word "CONSTRUCT", .mark .openBrace, .var "s", .var "p", .var "o",
      .mark .closeBrace]
    let post : List Token := [.mark .openBrace, .var "s", .var "p", .var "o", .mark .closeBrace]
    let pattern : TriplePattern := ⟨.var "s", .var "p", .var "o"⟩
    (tokenize "CONSTRUCT \x7b ?s ?p ?o \x7d WHERE \x7b ?s ?p ?o \x7d".toList).map
        (List.map Located.token) = .ok (pre ++ .word "WHERE" :: post) ∧
      (tokenize "CONSTRUCT \x7b ?s ?p ?o \x7d \x7b ?s ?p ?o \x7d".toList).map
        (List.map Located.token) = .ok (pre ++ post) ∧
      parse "CONSTRUCT \x7b ?s ?p ?o \x7d WHERE \x7b ?s ?p ?o \x7d" =
        .ok ⟨.construct [pattern], ⟨[pattern], [], []⟩, .ofLimit defaultLimit, .wellKnown⟩ ∧
      parse "CONSTRUCT \x7b ?s ?p ?o \x7d \x7b ?s ?p ?o \x7d" =
        .error (.malformed .whereAfterTemplate "\x7b ?s ?p ?o \x7d".toList) :=
  ⟨by decide +kernel, by decide +kernel, by decide +kernel, by decide +kernel⟩

end LinkedRaces.Query
