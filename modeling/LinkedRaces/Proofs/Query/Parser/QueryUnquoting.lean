import LinkedRaces.Proofs.Query.Parser.Forms
import LinkedRaces.Proofs.Query.Parser.GroupUnquoting

/-!
The parser of queries on a number with and without quotes: the prologue, the forms and the
modifiers. The number stands in the group or in the template, if the query is read at all.
-/

namespace LinkedRaces.QueryParser

open Unquoted (Agree agree_took agree_mark)

variable {n : Numeral} {x : Context} {t : Namespaces} {ts us : Tokens}

abbrev AgreeRest {α : Type} (n : Numeral) (x : Context) (r r' : Except QueryError (α × Tokens)) :
    Prop :=
  Follows (n.Splits x) (fun a b => b.1 = a.1 ∧ Unquoted n x a.2 b.2) r r'

theorem AgreeRest.andThen {α β γ : Type} {W : β → γ → Prop} {r r' : Except QueryError (α × Tokens)}
    {f : α × Tokens → Except QueryError β} {g : α × Tokens → Except QueryError γ}
    (h : AgreeRest n x r r')
    (hfg : ∀ value rest rest', Unquoted n x rest rest' →
      Follows (n.Splits x) W (f (value, rest)) (g (value, rest'))) :
    Follows (n.Splits x) W (r >>= f) (r' >>= g) := by
  refine Follows.bind h fun a b hab => ?_
  obtain ⟨value, rest⟩ := a
  obtain ⟨value', rest'⟩ := b
  obtain rfl : value = value' := hab.1.symm
  exact hfg value rest rest' hab.2

theorem nextIs_eq (keyword : String) (h : Unquoted n x ts us) :
    nextIs keyword us = nextIs keyword ts := by
  cases h.next with
  | nil => rfl
  | same => rfl
  | number => exact (n.opensLiteral_opening x).isKeyword keyword

theorem unquoted_skipKeyword (keyword : String) (h : Unquoted n x ts us) :
    Unquoted n x (skipKeyword keyword ts) (skipKeyword keyword us) := by
  cases h.next with
  | nil => exact h
  | same tok text text' rest =>
    rw [skipKeyword, skipKeyword]
    dsimp only
    split
    · exact rest
    · exact h
  | number =>
    rw [skipKeyword, skipKeyword, if_neg (by simp [Token.isKeyword]),
      if_neg (by simp [(n.opensLiteral_opening x).isKeyword])]
    exact h

theorem follows_rejectDataset (h : Unquoted n x ts us) :
    Follows (n.Splits x) (fun _ _ => True) (rejectDataset ts) (rejectDataset us) := by
  rw [rejectDataset, rejectDataset, nextIs_eq _ h]
  split
  · exact .error _ _
  · exact .ok trivial

theorem agree_prefixDeclaration (t : Namespaces) (a b : Located) (h : Unquoted n x ts us) :
    Agree n x (prefixDeclaration t a ts) (prefixDeclaration t b us) :=
  Unquoted.agree_prefixDeclaration t _ _ _ h

theorem agree_baseDeclaration (t : Namespaces) (a b : Located) (h : Unquoted n x ts us) :
    Agree n x (baseDeclaration t a ts) (baseDeclaration t b us) :=
  (Unquoted.agree_reference t _ _ h).andThen fun _ _ _ _ _ hrest => .ok ⟨rfl, hrest⟩

theorem prologue_of_opensLiteral {tok : Token} (htok : tok.OpensLiteral) (t : Namespaces)
    (text : List Char) (rest : Tokens) :
    prologue t (⟨tok, text⟩ :: rest) = .ok (t, ⟨tok, text⟩ :: rest) := by
  rw [prologue]
  simp [htok.isKeyword]

theorem agree_prologue (t : Namespaces) {ts us : Tokens} (h : Unquoted n x ts us) :
    AgreeRest n x (prologue t ts) (prologue t us) := by
  cases h.next with
  | nil =>
    rw [prologue]
    exact .ok ⟨rfl, h⟩
  | @same tok text text' ts us rest =>
    rw [prologue, prologue]
    dsimp only
    split
    · exact (agree_prefixDeclaration t _ _ rest).andThen fun t _ _ hlt _ hrest =>
        agree_prologue t hrest
    · split
      · exact (agree_baseDeclaration t _ _ rest).andThen fun t _ _ hlt _ hrest =>
          agree_prologue t hrest
      · exact .ok ⟨rfl, h⟩
  | number =>
    rw [prologue_of_opensLiteral (.string _),
      prologue_of_opensLiteral (n.opensLiteral_opening x)]
    exact .ok ⟨rfl, h⟩
termination_by ts.length
decreasing_by all_goals grind

theorem selected_of_opensLiteral {tok : Token} (htok : tok.OpensLiteral) (text : List Char)
    (rest : Tokens) : selected (⟨tok, text⟩ :: rest) = .ok ([], ⟨tok, text⟩ :: rest) := by
  cases htok <;> rfl

theorem described_of_opensLiteral {tok : Token} (htok : tok.OpensLiteral) (t : Namespaces)
    (text : List Char) (rest : Tokens) :
    described t (⟨tok, text⟩ :: rest) = .ok ([], ⟨tok, text⟩ :: rest) := by
  cases htok <;> rfl

theorem agree_selected {ts us : Tokens} (h : Unquoted n x ts us) :
    AgreeRest n x (selected ts) (selected us) := by
  cases h.next with
  | nil => exact .ok ⟨rfl, h⟩
  | @same tok text text' ts us rest =>
    unfold selected
    dsimp only
    split
    · exact (agree_selected rest).andThen fun _ _ _ hrest => .ok ⟨rfl, hrest⟩
    · split
      · split <;> exact .error _ _
      · exact .error _ _
    · exact .ok ⟨rfl, h⟩
  | number =>
    rw [selected_of_opensLiteral (.string _),
      selected_of_opensLiteral (n.opensLiteral_opening x)]
    exact .ok ⟨rfl, h⟩
termination_by ts.length
decreasing_by all_goals grind

theorem agree_groupThen {α : Type} (t : Namespaces) (f : Group → α) (h : Unquoted n x ts us) :
    AgreeRest n x (groupThen t ts f) (groupThen t us f) :=
  (agree_group t h).andThen fun _ _ _ _ _ hrest => .ok ⟨rfl, hrest⟩

theorem agree_projection (h : Unquoted n x ts us) :
    AgreeRest n x (projection ts) (projection us) := by
  rcases Unquoted.skipsAlike (m := .star) (by decide) (by decide) h with
    ⟨hts, hus⟩ | ⟨⟨_, _⟩, ⟨_, _⟩, ts', us', rfl, rfl, rfl, rfl, hmore⟩
  · rw [projection_of_nextIsNot hts, projection_of_nextIsNot hus]
    refine (agree_selected h).andThen fun names _ _ hrest => ?_
    dsimp only
    split
    · exact .error _ _
    · exact .ok ⟨rfl, hrest⟩
  · exact .ok ⟨rfl, hmore⟩

theorem agree_selectForm (t : Namespaces) (h : Unquoted n x ts us) :
    AgreeRest n x (selectForm t ts) (selectForm t us) := by
  refine (agree_projection h).andThen fun p _ _ hrest => ?_
  refine (follows_rejectDataset hrest).bind fun _ _ _ => ?_
  exact agree_groupThen t _ (unquoted_skipKeyword "WHERE" hrest)

theorem agree_constructForm (t : Namespaces) (h : Unquoted n x ts us) :
    AgreeRest n x (constructForm t ts) (constructForm t us) := by
  rw [constructForm, constructForm, nextIs_eq _ h]
  split
  · refine (agree_groupThen t id (unquoted_skipKeyword "WHERE" h)).andThen fun g _ _ hrest => ?_
    dsimp only
    split
    · exact .ok ⟨rfl, hrest⟩
    · exact .error _ _
  · refine (agree_template t h).andThen fun patterns _ _ _ _ hrest => ?_
    refine (follows_rejectDataset hrest).bind fun _ _ _ => ?_
    rw [nextIs_eq _ hrest]
    split
    · exact agree_groupThen t _ (unquoted_skipKeyword "WHERE" hrest)
    · exact .error _ _

theorem agree_described (t : Namespaces) {ts us : Tokens} (h : Unquoted n x ts us) :
    AgreeRest n x (described t ts) (described t us) := by
  cases h.next with
  | nil => exact .ok ⟨rfl, h⟩
  | @same tok text text' ts us rest =>
    rw [described, described]
    dsimp only
    split
    · exact (agree_described t rest).andThen fun _ _ _ hrest => .ok ⟨rfl, hrest⟩
    · refine (agree_iri t h).andThen fun _ _ _ _ _ _ => ?_
      exact (agree_described t rest).andThen fun _ _ _ hrest => .ok ⟨rfl, hrest⟩
    · refine (agree_iri t h).andThen fun _ _ _ _ _ _ => ?_
      exact (agree_described t rest).andThen fun _ _ _ hrest => .ok ⟨rfl, hrest⟩
    · exact .ok ⟨rfl, h⟩
  | number =>
    rw [described_of_opensLiteral (.string _),
      described_of_opensLiteral (n.opensLiteral_opening x)]
    exact .ok ⟨rfl, h⟩
termination_by ts.length
decreasing_by all_goals grind

theorem agree_resources (t : Namespaces) (h : Unquoted n x ts us) :
    AgreeRest n x (resources t ts) (resources t us) := by
  rcases Unquoted.skipsAlike (m := .star) (by decide) (by decide) h with
    ⟨hts, hus⟩ | ⟨⟨_, _⟩, ⟨_, _⟩, ts', us', rfl, rfl, rfl, rfl, hmore⟩
  · rw [resources_of_nextIsNot t hts, resources_of_nextIsNot t hus]
    refine (agree_described t h).andThen fun terms _ _ hrest => ?_
    dsimp only
    split
    · exact .error _ _
    · exact .ok ⟨rfl, hrest⟩
  · exact .ok ⟨rfl, hmore⟩

theorem opensGroup_eq (h : Unquoted n x ts us) : opensGroup us = opensGroup ts := by
  cases h.next with
  | nil => rfl
  | same => rfl
  | number => 
    have hopening := (n.opensLiteral_opening x).ne_mark (m := .openBrace) (by decide) (by decide)
    simp [opensGroup, hopening]

theorem agree_describeForm (t : Namespaces) (h : Unquoted n x ts us) :
    AgreeRest n x (describeForm t ts) (describeForm t us) := by
  refine (agree_resources t h).andThen fun terms _ _ hrest => ?_
  refine (follows_rejectDataset hrest).bind fun _ _ _ => ?_
  rw [nextIs_eq _ hrest, opensGroup_eq hrest]
  split
  · exact agree_groupThen t _ (unquoted_skipKeyword "WHERE" hrest)
  · exact .ok ⟨rfl, hrest⟩

theorem distinctness_similar (h : Unquoted n x ts us) :
    (distinctness us).1 = (distinctness ts).1 ∧
      Unquoted n x (distinctness ts).2 (distinctness us).2 := by
  rw [distinctness, distinctness, nextIs_eq _ h]
  split
  · exact ⟨rfl, unquoted_skipKeyword "DISTINCT" h⟩
  · exact ⟨rfl, unquoted_skipKeyword "REDUCED" h⟩

theorem agree_form (t : Namespaces) (h : Unquoted n x ts us) :
    AgreeRest n x (form t ts) (form t us) := by
  cases h.next with
  | nil => exact .error _ _
  | same tok text text' rest =>
    rw [form, form]
    dsimp only
    split
    · obtain ⟨hdistinct, hrest⟩ := distinctness_similar rest
      refine (agree_selectForm t hrest).andThen fun f _ _ hrest => .ok ⟨?_, hrest⟩
      rw [hdistinct]
    · exact (agree_constructForm t rest).andThen fun _ _ _ hrest => .ok ⟨rfl, hrest⟩
    · exact agree_groupThen t _ (unquoted_skipKeyword "WHERE" rest)
    · exact (agree_describeForm t rest).andThen fun _ _ _ hrest => .ok ⟨rfl, hrest⟩
    · exact .error _ _
  | number => exact .error _ _

theorem agree_count (clause : String) (h : Unquoted n x ts us) :
    Agree n x (count clause ts) (count clause us) := by
  cases h.next with
  | nil => exact .error _ _
  | same tok text text' rest =>
    cases tok with
    | integer digits =>
      rw [count, count]
      split
      · exact .error _ _
      · exact agree_took _ _ _ rest
    | _ => exact .error _ _
  | number => exact .error _ _

theorem agree_directedVariable (h : Unquoted n x ts us) :
    Agree n x (directedVariable ts) (directedVariable us) := by
  cases h.next with
  | nil => exact .error _ _
  | same tok text text' rest =>
    unfold directedVariable
    dsimp only
    split
    · exact .error _ _
    · cases rest.next with
      | nil => exact .error _ _
      | same tok _ _ more =>
        cases tok with
        | var name =>
          exact (agree_mark .closeParen _ more).andThen fun _ _ _ _ _ hrest => .ok ⟨rfl, hrest⟩
        | _ => exact .error _ _
      | number => exact .error _ _
  | number => exact .error _ _

theorem orderKey?_of_opensLiteral {tok : Token} (htok : tok.OpensLiteral) (text : List Char)
    (rest : Tokens) : orderKey? (⟨tok, text⟩ :: rest) = .ok none := by
  cases htok <;> rfl

theorem follows_orderKey? (h : Unquoted n x ts us) :
    Follows (n.Splits x) (Option.Rel (Reading.Similar (Unquoted n x) id)) (orderKey? ts)
      (orderKey? us) := by
  cases h.next with
  | nil => exact .ok .none
  | same tok text text' rest =>
    unfold orderKey?
    dsimp only
    split
    · exact .ok (.some ⟨rfl, rest⟩)
    · exact .error _ _
    · split
      · exact (agree_directedVariable rest).andThen fun _ _ _ _ _ hrest => .ok (.some ⟨rfl, hrest⟩)
      · exact .ok .none
  | number =>
    rw [orderKey?_of_opensLiteral (.string _),
      orderKey?_of_opensLiteral (n.opensLiteral_opening x)]
    exact .ok .none

theorem agree_orderKeys {ts us : Tokens} (h : Unquoted n x ts us) :
    Agree n x (orderKeys ts) (orderKeys us) := by
  rw [orderKeys, orderKeys]
  refine (follows_orderKey? h).bind fun key key' hkey => ?_
  cases hkey with
  | none => exact .ok ⟨rfl, h⟩
  | @some r r' hr =>
    obtain ⟨value, rest, hlt⟩ := r
    obtain ⟨value', rest', hlt'⟩ := r'
    obtain ⟨rfl, hrest⟩ := hr
    exact (agree_orderKeys hrest).andThen fun _ _ _ _ _ hrest => .ok ⟨rfl, hrest⟩
termination_by ts.length

theorem agree_order (h : Unquoted n x ts us) : Agree n x (order ts) (order us) := by
  cases h.next with
  | nil => exact .error _ _
  | same tok text text' rest =>
    rw [order, order]
    dsimp only
    split
    · refine (agree_orderKeys rest).andThen fun keys _ _ _ _ hrest => ?_
      dsimp only
      split
      · exact .error _ _
      · exact .ok ⟨rfl, hrest⟩
    · exact .error _ _
  | number => exact .error _ _

theorem modifiers_of_opensLiteral {tok : Token} (htok : tok.OpensLiteral) (maxLimit : Nat)
    (m : Modifiers) (text : List Char) (rest : Tokens) :
    modifiers maxLimit m (⟨tok, text⟩ :: rest) = .ok (m, ⟨tok, text⟩ :: rest) := by
  rw [modifiers]
  simp [modifierKeyword?, htok.isKeyword]

theorem agree_modifiers (maxLimit : Nat) (m : Modifiers) {ts us : Tokens}
    (h : Unquoted n x ts us) :
    AgreeRest n x (modifiers maxLimit m ts) (modifiers maxLimit m us) := by
  cases h.next with
  | nil =>
    rw [modifiers]
    exact .ok ⟨rfl, h⟩
  | @same tok text text' ts us rest =>
    rw [modifiers, modifiers]
    dsimp only
    split
    · exact .error _ _
    · exact .error _ _
    · exact (agree_order rest).andThen fun keys _ _ hlt _ hrest => agree_modifiers maxLimit _ hrest
    · exact (agree_count "LIMIT" rest).andThen fun k _ _ hlt _ hrest =>
        agree_modifiers maxLimit _ hrest
    · exact (agree_count "OFFSET" rest).andThen fun k _ _ hlt _ hrest =>
        agree_modifiers maxLimit _ hrest
    · exact .ok ⟨rfl, h⟩
  | number =>
    rw [modifiers_of_opensLiteral (.string _),
      modifiers_of_opensLiteral (n.opensLiteral_opening x)]
    exact .ok ⟨rfl, h⟩
termination_by ts.length
decreasing_by all_goals grind

theorem follows_finish (h : Unquoted n x ts us) :
    Follows (n.Splits x) (fun _ _ => ¬ n.Splits x) (finish ts) (finish us) := by
  cases h.next with
  | nil hwhole => exact .ok hwhole
  | same =>
    unfold finish
    dsimp only
    split <;> exact .error _ _
  | number => exact .error _ _

theorem follows_query (t : Namespaces) (maxLimit : Nat) (h : Unquoted n x ts us) :
    Follows (n.Splits x) (fun q q' => ¬ n.Splits x ∧ q' = q) (query t maxLimit ts)
      (query t maxLimit us) := by
  refine (agree_prologue t h).andThen fun t _ _ hrest => ?_
  refine (agree_form t hrest).andThen fun f _ _ hrest => ?_
  refine (agree_modifiers maxLimit _ hrest).andThen fun m _ _ hrest => ?_
  exact (follows_finish hrest).bind fun _ _ hwhole => .ok ⟨hwhole, rfl⟩

end LinkedRaces.QueryParser
