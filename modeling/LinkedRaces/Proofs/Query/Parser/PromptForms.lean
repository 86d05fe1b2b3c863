import LinkedRaces.Proofs.Query.Parser.Forms
import LinkedRaces.Proofs.Query.Parser.PromptGroups

/-!
Prologue, forms and modifiers are read in time, and so are whole queries. The keyword WHERE is taken
by the forms only.
-/

namespace LinkedRaces.QueryParser

variable {t : Namespaces} {ts : Tokens}

theorem nextIs_congr {us : Tokens} (h : NextAlike ts us) (keyword : String) :
    nextIs keyword ts = nextIs keyword us := by
  cases ts with
  | nil => rw [h.nil_eq]
  | cons x rest =>
    obtain ⟨y, us, rfl, hy⟩ := h.exists_cons
    exact hy.isKeyword_eq keyword

theorem Prompt.skipKeyword {α : Type} {P : Token → Prop} {G : Tokens → Outcome α}
    (keyword : String) (hP : ∀ x : Token, x.isKeyword keyword → P x)
    (h : Prompt P G (skipKeyword keyword ts)) :
    Prompt P (fun us => G (QueryParser.skipKeyword keyword us)) ts := by
  cases ts with
  | nil => exact h.congr fun us hus => by rw [hus.nil_eq]; rfl
  | cons x rest =>
    cases hx : x.token.isKeyword keyword with
    | true =>
      simp only [QueryParser.skipKeyword, hx, if_true] at h
      refine .skip (hP _ hx) (fun y us hy => ?_) h
      simp only [QueryParser.skipKeyword, ← hy.isKeyword_eq, hx, if_true]
    | false =>
      simp only [QueryParser.skipKeyword, hx, Bool.false_eq_true, if_false] at h
      refine .head (fun y us hy => ?_) h
      simp only [QueryParser.skipKeyword, ← hy.isKeyword_eq, hx, Bool.false_eq_true, if_false]

def prefixFrom (t : Namespaces) : Tokens → Outcome Namespaces
  | [] => .error (failure .prefixName [])
  | keyword :: rest => plain (prefixDeclaration t keyword rest)

def baseFrom (t : Namespaces) : Tokens → Outcome Namespaces
  | [] => .error (failure .baseIri [])
  | keyword :: rest => plain (baseDeclaration t keyword rest)

theorem prompt_referenceAfter {α : Type} {F : Tokens → Outcome α} {fault : QueryFault}
    {x : Located} (g : Iri → α) (t : Namespaces) (hx : NotWhere x.token)
    (back : StepsBack fault x.token)
    (hF : ∀ y us, x.token.Alike y.token → F (y :: us) =
      (plain (Tokens.reference t (failureAfter fault y) us)).andThen fun i rest => .ok (g i, rest))
    (ts : Tokens) : Prompt NotWhere F (x :: ts) := by
  refine .after hx back hF (fun _ => rfl) (fun y y' ⟨tok, text⟩ us => ?_) fun ⟨tok, text⟩ us => ?_
  · cases tok <;> rfl
  · cases tok with
    | iri body =>
      exact .headTaken (a := g (t.resolve body)) (by simp) (by rintro ⟨_, _⟩ us ⟨⟩; rfl)
    | word _ => exact .headFails fault (by rintro ⟨_, _⟩ us (_ | _) <;> rfl)
    | _ => exact .headFails fault (by rintro ⟨_, _⟩ us ⟨⟩; rfl)

theorem prompt_baseFrom (t : Namespaces) {keyword : Located}
    (hkeyword : keyword.token.isKeyword "BASE") (ts : Tokens) :
    Prompt NotWhere (baseFrom t) (keyword :: ts) :=
  prompt_referenceAfter t.setBase t (notWhere_of_isKeyword hkeyword rfl) (.baseIri hkeyword)
    (fun _ _ _ => plain_bind fun _ => rfl) ts

theorem prefixDeclaration_of_name (t : Namespaces) (keyword : Located) (label : String)
    {name : String} (hname : name ≠ "") (text : List Char) (rest : Tokens) :
    prefixDeclaration t keyword (⟨.prefixed label name, text⟩ :: rest) =
      fail .prefixName (⟨.prefixed label name, text⟩ :: rest) := by
  unfold prefixDeclaration Tokens.prefixDeclaration
  dsimp only
  split
  next heq =>
    cases heq
    exact absurd rfl hname
  next => rfl

theorem prompt_prefixFrom (t : Namespaces) {keyword : Located}
    (hkeyword : keyword.token.isKeyword "PREFIX") (ts : Tokens) :
    Prompt NotWhere (prefixFrom t) (keyword :: ts) := by
  refine .after (E := fun y us => plain (prefixDeclaration t y us))
    (notWhere_of_isKeyword hkeyword rfl) (.prefixName hkeyword) (fun y us _ => rfl) (fun _ => rfl)
    (fun y y' ⟨tok, text⟩ us => ?_) fun ⟨tok, text⟩ us => ?_
  · cases tok with
    | «prefixed» label name =>
      by_cases hname : name = ""
      · subst hname
        rfl
      · rw [prefixDeclaration_of_name t y label hname, prefixDeclaration_of_name t y' label hname]
    | _ => rfl
  · cases tok with
    | «prefixed» label name =>
      by_cases hname : name = ""
      · subst hname
        refine prompt_referenceAfter (fun i => t.insert label i.text) t (by simp) (.prefixIri label)
          ?_ us
        rintro ⟨_, _⟩ us ⟨⟩
        exact plain_bind fun _ => rfl
      · refine .headFails .prefixName ?_
        rintro ⟨_, _⟩ us ⟨⟩
        rw [prefixDeclaration_of_name t _ label hname, plain_fail]
    | word _ => exact .headFails .prefixName (by rintro ⟨_, _⟩ us (_ | _) <;> rfl)
    | _ => exact .headFails .prefixName (by rintro ⟨_, _⟩ us ⟨⟩; rfl)

theorem prompt_prologue (t : Namespaces) (ts : Tokens) : Prompt NotWhere (prologue t) ts := by
  cases ts with
  | nil => exact .stays (a := t) fun us hus => by rw [hus.nil_eq, prologue]
  | cons x rest =>
    by_cases hprefix : x.token.isKeyword "PREFIX"
    · refine .head (fun y us hy => ?_)
        ((prompt_prefixFrom t hprefix rest).andThen (K := prologue) fun t' rest' h => ?_)
      · rw [prologue, ← hy.isKeyword_eq, if_pos hprefix, prefixFrom]
        cases prefixDeclaration t y us <;> rfl
      · have hlt := shorter_of_plain h
        exact prompt_prologue t' rest'
    by_cases hbase : x.token.isKeyword "BASE"
    · refine .head (fun y us hy => ?_)
        ((prompt_baseFrom t hbase rest).andThen (K := prologue) fun t' rest' h => ?_)
      · rw [prologue, ← hy.isKeyword_eq, if_neg hprefix, ← hy.isKeyword_eq, if_pos hbase, baseFrom]
        cases baseDeclaration t y us <;> rfl
      · have hlt := shorter_of_plain h
        exact prompt_prologue t' rest'
    refine .headStays (a := t) fun y us hy => ?_
    rw [prologue, ← hy.isKeyword_eq, if_neg hprefix, ← hy.isKeyword_eq, if_neg hbase]
termination_by ts.length

theorem glance_rejectDataset : Glance rejectDataset where
  congr h := by rw [rejectDataset, nextIs_congr h, rejectDataset]
  passes ts := by
    cases ts with
    | nil => exact .inl rfl
    | cons x rest =>
      unfold rejectDataset
      split
      · exact .inr ⟨List.cons_ne_nil x rest, _, rfl⟩
      · exact .inl rfl

def projectionFeature : Tokens → QueryFeature
  | ⟨.word word, _⟩ :: _ =>
    if aggregates.contains (Text.lowercase word) then .aggregates else .projectionExpressions
  | _ => .projectionExpressions

theorem projectionFeature_congr {us : Tokens} (h : NextAlike ts us) :
    projectionFeature ts = projectionFeature us := by
  cases ts with
  | nil => rw [h.nil_eq]
  | cons x rest =>
    obtain ⟨⟨_, _⟩, us, rfl, hy⟩ := h.exists_cons
    obtain ⟨tok, text⟩ := x
    cases tok with
    | word word =>
      obtain ⟨b, rfl, hletters⟩ := hy.exists_word
      simp only [projectionFeature, Text.lowercase_congr hletters]
    | _ => cases hy; rfl

theorem selected_openParen (text : List Char) (rest : Tokens) :
    selected (⟨.mark .openParen, text⟩ :: rest) =
      .error (.unsupported (projectionFeature rest)) := by
  rcases rest with _ | ⟨⟨tok, text'⟩, rest⟩
  · rfl
  · cases tok with
    | word word =>
      simp only [selected, projectionFeature]
      split <;> rfl
    | _ => rfl

theorem prompt_selected (ts : Tokens) : Prompt NotWhere selected ts := by
  cases ts with
  | nil => exact .stays (a := []) fun us hus => by rw [hus.nil_eq]; rfl
  | cons x rest =>
    obtain ⟨tok, text⟩ := x
    cases tok with
    | var name =>
      refine .skip (by simp) ?_ ((prompt_selected rest).map (name :: ·))
      rintro ⟨_, _⟩ us ⟨⟩
      rfl
    | mark m =>
      cases m with
      | openParen =>
        change Prompt NotWhere selected ([] ++ _)
        refine .refuses (List.cons_ne_nil _ rest) (fun taken' us htaken hus => ?_)
          fun us hus => ?_
        · cases htaken
          obtain ⟨⟨_, _⟩, us, rfl, ⟨⟩⟩ := hus.exists_cons
          exact ⟨_, selected_openParen _ us⟩
        · obtain ⟨⟨_, _⟩, us, ⟨⟩, hrest, rfl⟩ := List.forall₂_cons_left_iff.1 hus
          rw [selected_openParen, List.nil_append, selected_openParen,
            projectionFeature_congr (.of_allAlike hrest)]
      | _ => exact .headStays (a := []) (by rintro ⟨_, _⟩ us ⟨⟩; rfl)
    | word _ => exact .headStays (a := []) (by rintro ⟨_, _⟩ us (_ | _) <;> rfl)
    | _ => exact .headStays (a := []) (by rintro ⟨_, _⟩ us ⟨⟩; rfl)

theorem Prompt.nonempty {α β : Type} {P : Token → Prop} {F : Tokens → Outcome (List α)}
    (h : Prompt P F ts) (fault : QueryFault) (g : List α → β) :
    Prompt P (fun us => Outcome.andThen (F us) fun as rest =>
      if as.isEmpty then fail fault rest else .ok (g as, rest)) ts :=
  h.andThen fun as _ _ => match as with
    | [] => .failsHere fault fun _ _ => rfl
    | _ :: _ => .stays fun _ _ => rfl

theorem prompt_projection (ts : Tokens) : Prompt NotWhere projection ts := by
  rcases next_mark_cases .star ts with ⟨text, rest, rfl⟩ | hnext
  · exact .headTaken (a := .all) (by simp) (by rintro ⟨_, _⟩ us ⟨⟩; rfl)
  · refine .congr (fun us hus => ?_)
      ((prompt_selected ts).nonempty .selected fun names => .vars names.eraseDups)
    rw [projection_of_nextIsNot (nextIsNot_congr hnext hus)]
    rfl

def AnyToken (_ : Token) : Prop := True

theorem Prompt.anyToken {α : Type} {P : Token → Prop} {F : Tokens → Outcome α}
    (h : Prompt P F ts) : Prompt AnyToken F ts :=
  h.mono fun _ _ => trivial

theorem prompt_groupThen {α : Type} (t : Namespaces) (f : Group → α) (ts : Tokens) :
    Prompt NotWhere (fun us => groupThen t us f) ts := by
  have hplain (us : Tokens) : groupThen t us f =
      (plain (group t us)).andThen fun g rest => .ok (f g, rest) := by
    unfold groupThen
    cases group t us <;> rfl
  simp only [hplain]
  exact (prompt_group t ts).map f

theorem prompt_whereGroup {α : Type} (t : Namespaces) (f : Group → α) (ts : Tokens) :
    Prompt AnyToken (fun us => groupThen t (skipKeyword "WHERE" us) f) ts :=
  .skipKeyword (G := fun us => groupThen t us f) "WHERE" (fun _ _ => trivial)
    (prompt_groupThen t f _).anyToken

theorem prompt_selectForm (t : Namespaces) (ts : Tokens) : Prompt AnyToken (selectForm t) ts :=
  (prompt_projection ts).anyToken.andThen
    (K := fun p rest => Except.bind (rejectDataset rest) fun _ =>
      groupThen t (skipKeyword "WHERE" rest) fun g => (QueryForm.select p, g))
    fun _ rest _ => (prompt_whereGroup t _ rest).glance glance_rejectDataset

theorem prompt_plainGroup (g : Group) (ts : Tokens) :
    Prompt AnyToken (fun us => if g.isPlain then .ok ((QueryForm.construct g.required, g), us)
      else fail .plainPatterns us) ts := by
  cases hplain : g.isPlain with
  | true => exact .stays fun _ _ => rfl
  | false => exact .failsHere .plainPatterns fun _ _ => rfl

theorem prompt_afterTemplate (t : Namespaces) (patterns : List TriplePattern) (ts : Tokens) :
    Prompt AnyToken (fun us => if nextIs "WHERE" us then
      groupThen t (skipKeyword "WHERE" us) fun g => (QueryForm.construct patterns, g)
      else fail .whereAfterTemplate us) ts := by
  cases hwhere : nextIs "WHERE" ts with
  | true =>
    refine (prompt_whereGroup t (fun g => (QueryForm.construct patterns, g)) ts).congr
      fun us hus => ?_
    rw [← nextIs_congr hus, hwhere, if_pos rfl]
  | false =>
    refine .failsHere .whereAfterTemplate fun us hus => ?_
    rw [← nextIs_congr hus, hwhere, if_neg Bool.false_ne_true]
    rfl

theorem prompt_constructForm (t : Namespaces) (ts : Tokens) :
    Prompt AnyToken (constructForm t) ts := by
  cases hwhere : nextIs "WHERE" ts with
  | true =>
    refine .congr (fun us hus => ?_) ((prompt_whereGroup t id ts).andThen
      fun g rest _ => prompt_plainGroup g rest)
    rw [constructForm, ← nextIs_congr hus, hwhere, if_pos rfl]
    rfl
  | false =>
    refine .congr (fun us hus => ?_) ((prompt_template t ts).anyToken.andThen
      (K := fun patterns rest => Except.bind (rejectDataset rest) fun _ =>
        if nextIs "WHERE" rest then
          groupThen t (skipKeyword "WHERE" rest) fun g => (QueryForm.construct patterns, g)
        else fail .whereAfterTemplate rest)
      fun patterns rest _ => (prompt_afterTemplate t patterns rest).glance glance_rejectDataset)
    rw [constructForm, ← nextIs_congr hus, hwhere, if_neg Bool.false_ne_true]
    cases template t us <;> rfl

theorem prompt_described (t : Namespaces) (ts : Tokens) : Prompt NotWhere (described t) ts := by
  cases ts with
  | nil => exact .stays (a := []) fun us hus => by rw [hus.nil_eq]; rfl
  | cons x rest =>
    obtain ⟨tok, text⟩ := x
    cases tok with
    | var name =>
      refine .skip (by simp) ?_ ((prompt_described t rest).map (.var name :: ·))
      rintro ⟨_, _⟩ us ⟨⟩
      rfl
    | iri body =>
      refine .skip (by simp) ?_ ((prompt_described t rest).map (.iri (t.resolve body) :: ·))
      rintro ⟨_, _⟩ us ⟨⟩
      rfl
    | «prefixed» label name =>
      cases hexpand : t.expand? label name with
      | some i =>
        refine .skip (by simp) ?_ ((prompt_described t rest).map (.iri i :: ·))
        rintro ⟨_, _⟩ us ⟨⟩
        simp only [described, iri, hexpand]
        rfl
      | none =>
        refine .headFails (.unknownPrefix label) ?_
        rintro ⟨_, _⟩ us ⟨⟩
        simp only [described, iri, hexpand]
        rfl
    | word _ => exact .headStays (a := []) (by rintro ⟨_, _⟩ us (_ | _) <;> rfl)
    | _ => exact .headStays (a := []) (by rintro ⟨_, _⟩ us ⟨⟩; rfl)

theorem prompt_resources (t : Namespaces) (ts : Tokens) : Prompt NotWhere (resources t) ts := by
  rcases next_mark_cases .star ts with ⟨text, rest, rfl⟩ | hnext
  · exact .headTaken (a := []) (by simp) (by rintro ⟨_, _⟩ us ⟨⟩; rfl)
  · refine .congr (fun us hus => ?_) ((prompt_described t ts).nonempty .described id)
    rw [resources_of_nextIsNot t (nextIsNot_congr hnext hus)]
    rfl

theorem opensGroup_congr {us : Tokens} (h : NextAlike ts us) : opensGroup ts = opensGroup us := by
  cases ts with
  | nil => rw [h.nil_eq]
  | cons x rest =>
    obtain ⟨y, us, rfl, hy⟩ := h.exists_cons
    exact hy.beq_mark .openBrace

theorem prompt_describedGroup (t : Namespaces) (terms : List Term) (ts : Tokens) :
    Prompt AnyToken (fun us => if nextIs "WHERE" us || opensGroup us then
      groupThen t (skipKeyword "WHERE" us) fun g => (QueryForm.describe terms, g)
      else .ok ((QueryForm.describe terms, .empty), us)) ts := by
  cases hgroup : nextIs "WHERE" ts || opensGroup ts with
  | true =>
    refine (prompt_whereGroup t (fun g => (QueryForm.describe terms, g)) ts).congr fun us hus => ?_
    rw [← nextIs_congr hus, ← opensGroup_congr hus, hgroup, if_pos rfl]
  | false =>
    refine .stays (a := (QueryForm.describe terms, .empty)) fun us hus => ?_
    rw [← nextIs_congr hus, ← opensGroup_congr hus, hgroup, if_neg Bool.false_ne_true]

theorem prompt_describeForm (t : Namespaces) (ts : Tokens) : Prompt AnyToken (describeForm t) ts :=
  (prompt_resources t ts).anyToken.andThen
    (K := fun terms rest => Except.bind (rejectDataset rest) fun _ =>
      if nextIs "WHERE" rest || opensGroup rest then
        groupThen t (skipKeyword "WHERE" rest) fun g => (QueryForm.describe terms, g)
      else .ok ((QueryForm.describe terms, .empty), rest))
    fun terms rest _ => (prompt_describedGroup t terms rest).glance glance_rejectDataset

theorem formKeyword?_congr {x y : Token} (h : x.Alike y) : formKeyword? x = formKeyword? y := by
  simp only [formKeyword?, h.isKeyword_eq]

theorem prompt_distinctness {α : Type} {G : Bool → Tokens → Outcome α}
    (hG : ∀ distinct us, Prompt AnyToken (G distinct) us) (ts : Tokens) :
    Prompt AnyToken (fun us => G (distinctness us).1 (distinctness us).2) ts := by
  cases hdistinct : nextIs "DISTINCT" ts with
  | true =>
    refine .congr (fun us hus => ?_)
      (Prompt.skipKeyword "DISTINCT" (fun _ _ => trivial) (hG true _))
    rw [distinctness, ← nextIs_congr hus, hdistinct, if_pos rfl]
  | false =>
    refine .congr (fun us hus => ?_)
      (Prompt.skipKeyword "REDUCED" (fun _ _ => trivial) (hG false _))
    rw [distinctness, ← nextIs_congr hus, hdistinct, if_neg Bool.false_ne_true]

theorem prompt_form (t : Namespaces) (ts : Tokens) : Prompt AnyToken (form t) ts := by
  cases ts with
  | nil => exact .nil .form rfl
  | cons x rest =>
    have hform {y : Located} (hy : x.token.Alike y.token) :
        formKeyword? y.token = formKeyword? x.token := (formKeyword?_congr hy).symm
    cases hx : formKeyword? x.token with
    | none =>
      refine .headFails .form fun y us hy => ?_
      simp only [form, hform hy, hx]
      rfl
    | some keyword =>
      cases keyword with
      | select =>
        refine .skip trivial (fun y us hy => ?_) (prompt_distinctness
          (fun distinct us => (prompt_selectForm t us).map fun p => (p.1, p.2, distinct)) rest)
        simp only [form, hform hy, hx]
        rfl
      | construct =>
        refine .skip trivial (fun y us hy => ?_) ((prompt_constructForm t rest).map
          fun p => (p.1, p.2, false))
        simp only [form, hform hy, hx]
        rfl
      | ask =>
        refine .skip trivial (fun y us hy => ?_)
          (prompt_whereGroup t (fun g => (QueryForm.ask, g, false)) rest)
        simp only [form, hform hy, hx]
      | describe =>
        refine .skip trivial (fun y us hy => ?_) ((prompt_describeForm t rest).map
          fun p => (p.1, p.2, false))
        simp only [form, hform hy, hx]
        rfl

theorem prompt_count (clause : String) (ts : Tokens) :
    Prompt NotWhere (fun us => plain (count clause us)) ts := by
  cases ts with
  | nil => exact .nil (.count clause) rfl
  | cons x rest =>
    obtain ⟨tok, text⟩ := x
    cases tok with
    | integer digits =>
      by_cases hminus : digits.toList.head? = some '-'
      · refine .headFails (.count clause) ?_
        rintro ⟨_, _⟩ us ⟨⟩
        simp [count, hminus]
      · refine .headTaken (a := min (Number.ofDigits (digits.toList.dropWhile (· == '+'))) maxCount)
          rfl ?_
        rintro ⟨_, _⟩ us ⟨⟩
        simp [count, hminus]
    | word _ => exact .headFails (.count clause) (by rintro ⟨_, _⟩ us (_ | _) <;> rfl)
    | _ => exact .headFails (.count clause) (by rintro ⟨_, _⟩ us ⟨⟩; rfl)

def variableAfter (paren : Located) : Tokens → Outcome String
  | ⟨.var name, _⟩ :: rest =>
    (plain (mark .closeParen .parenEnd rest)).andThen fun _ rest => .ok (name, rest)
  | rest => .error (failureAfter .orderVariable paren rest)

theorem plain_directedVariable {paren : Located} (hparen : paren.token = .mark .openParen)
    (rest : Tokens) : plain (directedVariable (paren :: rest)) = variableAfter paren rest := by
  simp only [directedVariable, hparen, ne_eq, not_true_eq_false, if_false]
  rcases rest with _ | ⟨⟨tok, text⟩, rest⟩
  · rfl
  · cases tok with
    | var name =>
      rw [variableAfter]
      exact plain_bind fun _ => rfl
    | _ => rfl

theorem prompt_directedVariable (ts : Tokens) :
    Prompt NotWhere (fun us => plain (directedVariable us)) ts := by
  cases ts with
  | nil => exact .nil .orderStart rfl
  | cons paren rest =>
    by_cases hparen : paren.token = .mark .openParen
    · refine .after (E := variableAfter) (by simp [hparen]) (hparen ▸ .orderVariable)
        (fun y us hy => plain_directedVariable ((hy.eq_mark_iff _).1 hparen) us) (fun _ => rfl)
        (fun y y' ⟨tok, text⟩ us => ?_) fun ⟨tok, text⟩ us => ?_
      · cases tok <;> rfl
      · cases tok with
        | var name =>
          refine .skip (by simp) ?_ ((prompt_mark .closeParen .parenEnd us).map fun _ => name)
          rintro ⟨_, _⟩ us ⟨⟩
          rfl
        | word _ => exact .headFails .orderVariable (by rintro ⟨_, _⟩ us (_ | _) <;> rfl)
        | _ => exact .headFails .orderVariable (by rintro ⟨_, _⟩ us ⟨⟩; rfl)
    · refine .headFails .orderStart fun y us hy => ?_
      have hy : y.token ≠ .mark .openParen := fun h => hparen ((hy.eq_mark_iff _).2 h)
      simp [directedVariable, hy]

def endsOrder : Token → Bool
  | .var _ | .mark .openParen => false
  | token => !(token.isKeyword "ASC" || token.isKeyword "DESC")

theorem endsOrder_congr {x y : Token} (h : x.Alike y) : endsOrder x = endsOrder y := by
  cases h with
  | refl => rfl
  | word letters free =>
    have h := Token.Alike.word letters free
    simp only [endsOrder, h.isKeyword_eq]

theorem plain_orderKeys_of_endsOrder {x : Located} (hx : endsOrder x.token) (rest : Tokens) :
    plain (orderKeys (x :: rest)) = .ok ([], x :: rest) := by
  have hkey : orderKey? (x :: rest) = .ok none := by
    obtain ⟨tok, text⟩ := x
    cases tok with
    | var name => cases hx
    | mark m =>
      cases m with
      | openParen => cases hx
      | _ => rfl
    | word word =>
      have hnot :
          ((Token.word word).isKeyword "ASC" || (Token.word word).isKeyword "DESC") = false := by
        simpa [endsOrder] using hx
      simp [orderKey?, hnot]
    | _ => rfl
  rw [orderKeys, hkey]
  rfl

theorem plain_orderKeys_cons {r : Reading Located OrderKey ts.length}
    (h : orderKey? ts = .ok (some r)) :
    plain (orderKeys ts) = (plain (orderKeys r.rest)).andThen fun keys rest =>
      .ok (r.value :: keys, rest) := by
  rw [orderKeys, h]
  change plain (orderKeys r.rest >>= fun s =>
    .ok (r.followedBy (s.map (r.value :: ·))).loosen) = _
  exact plain_bind fun _ => rfl

theorem plain_orderKeys_directed {word : String}
    (hword : (Token.word word).isKeyword "ASC" || (Token.word word).isKeyword "DESC")
    (text : List Char) (rest : Tokens) :
    plain (orderKeys (⟨.word word, text⟩ :: rest)) =
      (plain (directedVariable rest)).andThen fun name rest =>
        (plain (orderKeys rest)).andThen fun keys rest =>
          .ok (⟨name, (Token.word word).isKeyword "ASC"⟩ :: keys, rest) := by
  have hkey : orderKey? (⟨.word word, text⟩ :: rest) = (directedVariable rest).map fun r =>
      some (r.map fun name => ⟨name, (Token.word word).isKeyword "ASC"⟩).loosen := by
    simp only [orderKey?, hword, if_true]
    cases directedVariable rest <;> rfl
  cases h : directedVariable rest with
  | error e =>
    rw [h] at hkey
    rw [orderKeys, hkey]
    rfl
  | ok r =>
    rw [h] at hkey
    exact plain_orderKeys_cons hkey

theorem prompt_orderKeys (ts : Tokens) :
    Prompt NotWhere (fun us => plain (orderKeys us)) ts := by
  cases ts with
  | nil => exact .stays (a := []) fun us hus => by rw [hus.nil_eq, orderKeys]; rfl
  | cons x rest =>
    by_cases hends : endsOrder x.token
    · exact .headStays (a := []) fun y us hy =>
        plain_orderKeys_of_endsOrder (endsOrder_congr hy ▸ hends) us
    obtain ⟨tok, text⟩ := x
    cases tok with
    | var name =>
      refine .skip (by simp) ?_ ((prompt_orderKeys rest).map (⟨name, true⟩ :: ·))
      rintro ⟨_, _⟩ us ⟨⟩
      rw [orderKeys]
      exact plain_bind fun _ => rfl
    | mark m =>
      cases m with
      | openParen =>
        exact .refusesHere .orderExpressions (by rintro ⟨_, _⟩ us ⟨⟩; rw [orderKeys]; rfl)
      | _ => exact absurd rfl hends
    | word word =>
      have hword : (Token.word word).isKeyword "ASC" || (Token.word word).isKeyword "DESC" := by
        simpa only [endsOrder, Bool.not_eq_true', Bool.not_eq_false] using hends
      have hnot : NotWhere (.word word) := by
        rcases Bool.or_eq_true_iff.1 hword with h | h <;> exact notWhere_of_isKeyword h rfl
      refine .skip hnot (fun y us hy => ?_) ((prompt_directedVariable rest).andThen
        (K := fun name rest => (plain (orderKeys rest)).andThen fun keys rest =>
          .ok (⟨name, (Token.word word).isKeyword "ASC"⟩ :: keys, rest)) fun name rest' h => ?_)
      · obtain ⟨tok, text⟩ := y
        obtain ⟨b, rfl, -⟩ := hy.exists_word
        rw [hy.isKeyword_eq "ASC", hy.isKeyword_eq "DESC"] at hword
        rw [plain_orderKeys_directed hword, hy.isKeyword_eq "ASC"]
      · have hlt := shorter_of_plain h
        exact (prompt_orderKeys rest').map (⟨name, (Token.word word).isKeyword "ASC"⟩ :: ·)
    | _ => exact absurd rfl hends
termination_by ts.length

theorem prompt_order (ts : Tokens) : Prompt NotWhere (fun us => plain (order us)) ts := by
  cases ts with
  | nil => exact .nil .orderBy rfl
  | cons x rest =>
    by_cases hby : x.token.isKeyword "BY"
    · refine .skip (notWhere_of_isKeyword hby rfl) (fun y us hy => ?_)
        ((prompt_orderKeys rest).nonempty .orderKey id)
      simp only [order, ← hy.isKeyword_eq, hby, if_true]
      refine plain_bind fun s => ?_
      cases hempty : s.value.isEmpty <;> rfl
    · refine .headFails .orderBy fun y us hy => ?_
      simp only [order, ← hy.isKeyword_eq, hby]
      rfl

theorem modifierKeyword?_congr {x y : Token} (h : x.Alike y) :
    modifierKeyword? x = modifierKeyword? y := by
  simp only [modifierKeyword?, h.isKeyword_eq]

theorem notWhere_of_modifierKeyword? {x : Token} (h : modifierKeyword? x ≠ none) : NotWhere x :=
  Bool.eq_false_iff.2 fun hwhere => h (modifierKeyword?_congr (alike_where hwhere))

theorem prompt_modifiers (maxLimit : Nat) (m : Modifiers) (ts : Tokens) :
    Prompt NotWhere (modifiers maxLimit m) ts := by
  cases ts with
  | nil => exact .stays (a := m) fun us hus => by rw [hus.nil_eq, modifiers]
  | cons x rest =>
    have hkeyword {y : Located} (hy : x.token.Alike y.token) :
        modifierKeyword? y.token = modifierKeyword? x.token := (modifierKeyword?_congr hy).symm
    cases hx : modifierKeyword? x.token with
    | none =>
      refine .headStays (a := m) fun y us hy => ?_
      rw [modifiers]
      simp only [hkeyword hy, hx]
    | some keyword =>
      have hnot : NotWhere x.token := notWhere_of_modifierKeyword? (by simp [hx])
      cases keyword with
      | group =>
        refine .refusesHere .groupBy fun y us hy => ?_
        rw [modifiers]
        simp only [hkeyword hy, hx]
        rfl
      | having =>
        refine .refusesHere .having fun y us hy => ?_
        rw [modifiers]
        simp only [hkeyword hy, hx]
        rfl
      | order =>
        refine .skip hnot (fun y us hy => ?_) ((prompt_order rest).andThen
          (K := fun keys rest => modifiers maxLimit { m with orderBy := m.orderBy ++ keys } rest)
          fun keys rest' h => ?_)
        · rw [modifiers]
          simp only [hkeyword hy, hx]
          cases order us <;> rfl
        · have hlt := shorter_of_plain h
          exact prompt_modifiers maxLimit _ rest'
      | limit =>
        refine .skip hnot (fun y us hy => ?_) ((prompt_count "LIMIT" rest).andThen
          (K := fun n rest => modifiers maxLimit { m with limit := min n maxLimit } rest)
          fun n rest' h => ?_)
        · rw [modifiers]
          simp only [hkeyword hy, hx]
          cases count "LIMIT" us <;> rfl
        · have hlt := shorter_of_plain h
          exact prompt_modifiers maxLimit _ rest'
      | offset =>
        refine .skip hnot (fun y us hy => ?_) ((prompt_count "OFFSET" rest).andThen
          (K := fun n rest => modifiers maxLimit { m with offset := n } rest)
          fun n rest' h => ?_)
        · rw [modifiers]
          simp only [hkeyword hy, hx]
          cases count "OFFSET" us <;> rfl
        · have hlt := shorter_of_plain h
          exact prompt_modifiers maxLimit _ rest'
termination_by ts.length

theorem prompt_finish (q : Query) (ts : Tokens) :
    Prompt NotWhere (fun us => (finish us).map fun _ => (q, [])) ts := by
  cases ts with
  | nil => exact .stays (a := q) fun us hus => by rw [hus.nil_eq]; rfl
  | cons x rest =>
    cases hvalues : x.token.isKeyword "VALUES" with
    | true =>
      refine .refusesHere .values fun y us hy => ?_
      simp only [finish, nextIs, ← hy.isKeyword_eq, hvalues, if_true]
      rfl
    | false =>
      refine .headFails .trailing fun y us hy => ?_
      simp only [finish, nextIs, ← hy.isKeyword_eq, hvalues, Bool.false_eq_true, if_false]
      rfl

def afterForm (t : Namespaces) (maxLimit : Nat) (p : QueryForm × Group × Bool) (ts : Tokens) :
    Outcome Query :=
  Outcome.andThen (modifiers maxLimit { Modifiers.ofLimit maxLimit with distinct := p.2.2 } ts)
    fun m rest => (finish rest).map fun _ => (⟨p.1, p.2.1, m, t⟩, [])

theorem map_query (t : Namespaces) (maxLimit : Nat) (ts : Tokens) :
    (query t maxLimit ts).map (·, []) = Outcome.andThen (prologue t ts) fun t rest =>
      Outcome.andThen (form t rest) (afterForm t maxLimit) := by
  simp only [query, afterForm, Outcome.andThen, bind, Except.bind]
  cases prologue t ts with
  | error e => rfl
  | ok p =>
    dsimp only
    cases form p.1 p.2 with
    | error e => rfl
    | ok p' =>
      dsimp only
      cases modifiers maxLimit { Modifiers.ofLimit maxLimit with distinct := p'.1.2.2 } p'.2 with
      | error e => rfl
      | ok p'' =>
        dsimp only
        cases finish p''.2 <;> rfl

theorem prompt_afterForm (t : Namespaces) (maxLimit : Nat) (p : QueryForm × Group × Bool)
    (ts : Tokens) : Prompt NotWhere (afterForm t maxLimit p) ts :=
  (prompt_modifiers maxLimit _ ts).andThen fun _ rest _ => prompt_finish _ rest

theorem prompt_query (t : Namespaces) (maxLimit : Nat) (ts : Tokens) :
    Prompt AnyToken (fun us => (query t maxLimit us).map (·, [])) ts := by
  simp only [map_query]
  exact (prompt_prologue t ts).anyToken.andThen fun t rest _ =>
    (prompt_form t rest).andThen fun p rest _ => (prompt_afterForm t maxLimit p rest).anyToken

/-- The same query, or the same error, which stands behind as many tokens of either list. -/
inductive SameOutcome (ts us : Tokens) : Except QueryError Query → Except QueryError Query → Prop
  | reads (q : Query) : SameOutcome ts us (.ok q) (.ok q)
  | fails (fault : QueryFault) (k : Nat) (hk : k ≤ ts.length) :
    SameOutcome ts us (.error (failure fault (ts.drop k))) (.error (failure fault (us.drop k)))
  | refuses (feature : QueryFeature) :
    SameOutcome ts us (.error (.unsupported feature)) (.error (.unsupported feature))

theorem SameOutcome.failsBehind {taken taken' rest rest' : Tokens} {fault : QueryFault}
    (h : taken.length = taken'.length) :
    SameOutcome (taken ++ rest) (taken' ++ rest') (.error (failure fault rest))
      (.error (failure fault rest')) := by
  have hfails : SameOutcome (taken ++ rest) (taken' ++ rest')
      (.error (failure fault ((taken ++ rest).drop taken.length))) _ :=
    .fails fault taken.length (by simp)
  rwa [List.drop_left, h, List.drop_left] at hfails

theorem map_nil_injective {r s : Except QueryError Query}
    (h : r.map (·, ([] : Tokens)) = s.map (·, ([] : Tokens))) : r = s := by
  cases r <;> cases s <;> cases h <;> rfl

theorem sameOutcome_query (t : Namespaces) (maxLimit : Nat) {ts us : Tokens} (h : AllAlike ts us) :
    SameOutcome ts us (query t maxLimit ts) (query t maxLimit us) := by
  have herror {us : Tokens} {e : QueryError}
      (h : (query t maxLimit us).map (·, ([] : Tokens)) = .error e) :
      query t maxLimit us = .error e :=
    map_nil_injective (s := .error e) h
  cases prompt_query t maxLimit ts with
  | @ok taken rest p holds same =>
    obtain ⟨taken', rest', rfl, htaken, hrest⟩ := h.exists_append
    have hts := same taken rest (.refl _) (.refl _)
    have hus := same taken' rest' htaken (.of_allAlike hrest)
    cases hq : query t maxLimit (taken ++ rest) with
    | error e =>
      rw [hq] at hts
      cases hts
    | ok q =>
      rw [hq] at hts
      obtain ⟨rfl, rfl⟩ := Prod.mk.inj (Except.ok.inj hts)
      obtain rfl := List.forall₂_nil_left_iff.1 hrest
      rw [map_nil_injective (s := .ok q) hus]
      exact .reads q
  | @fails taken rest fault same =>
    obtain ⟨taken', rest', rfl, htaken, hrest⟩ := h.exists_append
    rw [herror (same taken rest (.refl _) (.refl _)),
      herror (same taken' rest' htaken (.of_allAlike hrest))]
    exact .failsBehind htaken.length_eq
  | @stepsBack taken last fault back same =>
    obtain ⟨taken', rest', rfl, htaken, hrest⟩ := h.exists_append
    obtain ⟨last', _, hlast, hnil, rfl⟩ := List.forall₂_cons_left_iff.1 hrest
    cases hnil
    rw [herror (same taken last (.refl _) (.refl _)), herror (same taken' last' htaken hlast)]
    exact .failsBehind htaken.length_eq
  | @refuses taken rest more refused same =>
    obtain ⟨feature, hfeature⟩ := refused taken rest (.refl _) (.refl _)
    rw [herror hfeature, herror ((same us h).trans hfeature)]
    exact .refuses feature

end LinkedRaces.QueryParser

namespace LinkedRaces.Query

theorem parseWith_of_tokenize {text : String} {ts : Tokens} (h : tokenize text.toList = .ok ts)
    (t : Namespaces) (maxLimit : Nat) :
    parseWith t maxLimit text = QueryParser.query t maxLimit ts := by
  rw [parseWith, h]

end LinkedRaces.Query
