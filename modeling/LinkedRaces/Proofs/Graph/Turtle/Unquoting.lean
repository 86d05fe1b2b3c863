import LinkedRaces.Proofs.Graph.Turtle.Reader
import LinkedRaces.Proofs.Lexical.Unquoting

/-!
The Turtle reader on a number with and without quotes. Only objects are literals, so the number is
an object of the document that is read.
-/

namespace LinkedRaces.Turtle.Reader

open Unquoted (Agree)

variable {n : Numeral} {x : Context} {t : Namespaces} {ts us : Tokens}

theorem agree_iri (t : Namespaces) (h : Unquoted n x ts us) : Agree n x (iri t ts) (iri t us) := by
  cases h.next with
  | nil => exact .error _ _
  | same tok text text' rest =>
    rw [iri, iri]
    dsimp only
    split
    · exact Unquoted.agree_took _ _ _ rest
    · split
      · exact Unquoted.agree_took _ _ _ rest
      · exact .error _ _
    · exact .error _ _
    · exact .error _ _
    · exact .error _ _
  | number => exact .error _ _

theorem iri_datatype (n : Numeral) (t : Namespaces) (text : List Char) (rest : Tokens) :
    iri t (⟨n.datatype.token, text⟩ :: rest) =
      Tokens.took n.datatype ⟨n.datatype.token, text⟩ rest := by
  have hresolve := Namespaces.resolve_absolute n.absolute_datatype t
  exact iri_of_names (show t.Names n.datatype.token n.datatype from hresolve) text rest

theorem agree_object (t : Namespaces) (h : Unquoted n x ts us) :
    Agree n x (object t ts) (object t us) := by
  cases h.next with
  | nil => exact .error _ _
  | same tok text text' rest =>
    rw [object, object]
    dsimp only
    split
    · exact (Unquoted.agree_quoted (agree_iri t) _ _ _ rest).andThen fun l _ _ _ _ hrest =>
        .ok ⟨rfl, hrest⟩
    · exact Unquoted.agree_took _ _ _ rest
    · exact .error _ _
    · exact (agree_iri t h).andThen fun i _ _ _ _ hrest => .ok ⟨rfl, hrest⟩
  | @number a b c text ts us rest =>
    obtain ⟨hlt, hquoted⟩ := Tokens.quoted_number (iri_datatype n t)
      ⟨.string (String.ofList n.text), a⟩ b c ts
    rcases n.opening_cases x with ⟨hsplit, hopening | hopening⟩ | ⟨hwhole, hopening⟩
    · rw [hopening]
      exact .fails hsplit _ _
    · rw [hopening]
      exact .fails hsplit _ _
    · rw [hopening, object_of_shorthand n.shorthand?_token]
      simp only [object, hquoted]
      exact .ok ⟨rfl, rest hwhole⟩

theorem agree_verb (t : Namespaces) (h : Unquoted n x ts us) :
    Agree n x (verb t ts) (verb t us) := by
  cases h.next with
  | nil => exact .error _ _
  | same tok text text' rest =>
    by_cases htok : tok = .word "a"
    · subst htok
      exact Unquoted.agree_took _ _ _ rest
    · rw [verb_eq_iri htok, verb_eq_iri htok]
      exact agree_iri t h
  | number => exact .error _ _

theorem agree_verbObjects (t : Namespaces) (s : Iri) (h : Unquoted n x ts us) :
    Agree n x (verbObjects t s ts) (verbObjects t s us) := by
  refine (agree_verb t h).andThen fun p rest rest' _ _ hrest => ?_
  refine (Unquoted.agree_commaSeparated (agree_object t) hrest).andThen fun os _ _ _ _ hrest => ?_
  exact .ok ⟨rfl, hrest⟩

theorem atDot_eq (h : Unquoted n x ts us) : atDot us = atDot ts := by
  cases h.next with
  | nil => rfl
  | same => rfl
  | number =>
    have hopening := (n.opensLiteral_opening x).ne_mark (m := .dot) (by decide) (by decide)
    simp [atDot, hopening]

theorem agree_predicates (t : Namespaces) (s : Iri) (h : Unquoted n x ts us) :
    Agree n x (predicates t s ts) (predicates t s us) :=
  Unquoted.agree_semicolonSeparated (agree_verbObjects t s) atDot_eq h

theorem agree_statement (t : Namespaces) (h : Unquoted n x ts us) :
    Agree n x (statement t ts) (statement t us) := by
  refine (agree_iri t h).andThen fun s _ _ _ _ hrest => ?_
  refine (agree_predicates t s hrest).andThen fun triples _ _ _ _ hrest => ?_
  refine (Unquoted.agree_mark .dot (failure .dot) hrest).andThen fun _ _ _ _ _ hrest => ?_
  exact .ok ⟨rfl, hrest⟩

theorem agree_declaration (t : Namespaces) (d : Directive) (h : Unquoted n x ts us) :
    Agree n x (declaration t ts d) (declaration t us d) := by
  cases d with
  | declarePrefix dotted => exact Unquoted.agree_prefixDeclaration t _ _ _ h
  | declareBase dotted =>
    exact (Unquoted.agree_reference t _ _ h).andThen fun i _ _ _ _ hrest => .ok ⟨rfl, hrest⟩

def item (t : Namespaces) (a : Located) (rest : Tokens) :
    Result (Namespaces × List Triple) (a :: rest) :=
  match directive? a.token with
  | some d => do
    let r ← declaration t rest d
    if d.dotted then
      let dot ← Tokens.mark .dot (failure .dot) r.rest
      return (r.andThen (dot.map fun _ => (r.value, []))).loosen
    else return (r.map (·, [])).loosen
  | none => do return (← statement t (a :: rest)).map (t, ·)

theorem agree_item (t : Namespaces) {tok : Token} {text text' : List Char}
    (h : Unquoted n x (⟨tok, text⟩ :: ts) (⟨tok, text'⟩ :: us)) (hrest : Unquoted n x ts us) :
    Agree n x (item t ⟨tok, text⟩ ts) (item t ⟨tok, text'⟩ us) := by
  rw [item, item]
  dsimp only
  split
  next d _ =>
    refine (agree_declaration t d hrest).andThen fun table _ _ _ _ hrest => ?_
    split
    · exact (Unquoted.agree_mark .dot (failure .dot) hrest).andThen fun _ _ _ _ _ hrest =>
        .ok ⟨rfl, hrest⟩
    · exact .ok ⟨rfl, hrest⟩
  next => exact (agree_statement t h).andThen fun triples _ _ _ _ hrest => .ok ⟨rfl, hrest⟩

theorem item_directive {a : Located} {d : Directive} (hd : directive? a.token = some d)
    (rest : Tokens) :
    item t a rest = (do
      let r ← declaration t rest d
      if d.dotted then
        let dot ← Tokens.mark .dot (failure .dot) r.rest
        return (r.andThen (dot.map fun _ => (r.value, []))).loosen
      else return (r.map (·, [])).loosen) := by
  simp only [item, hd]

theorem item_statement {a : Located} (hd : directive? a.token = none) (rest : Tokens) :
    item t a rest = (do return (← statement t (a :: rest)).map (t, ·)) := by
  simp only [item, hd]

theorem map_nil_append (r : Except ReadError (List Triple)) : r.map ([] ++ ·) = r := by
  cases r <;> rfl

theorem document_of_item {a : Located} {rest : Tokens}
    {r : Reading Located (Namespaces × List Triple) (a :: rest).length}
    (h : item t a rest = .ok r) :
    document t (a :: rest) =
      ((document r.value.1 r.rest).1, (document r.value.1 r.rest).2.map (r.value.2 ++ ·)) := by
  cases hd : directive? a.token with
  | some d =>
    rw [item_directive hd] at h
    obtain ⟨declared, hdeclared, h⟩ := Scanner.bind_eq_ok.1 h
    rw [document]
    simp only [hd, hdeclared]
    split at h
    next hdotted =>
      obtain ⟨dot, hdot, h⟩ := Scanner.bind_eq_ok.1 h
      obtain rfl := Except.ok.inj h
      simp only [if_pos hdotted, hdot]
      exact Prod.ext rfl (map_nil_append _).symm
    next hdotted =>
      obtain rfl := Except.ok.inj h
      simp only [if_neg hdotted]
      exact Prod.ext rfl (map_nil_append _).symm
  | none =>
    rw [item_statement hd] at h
    obtain ⟨triples, htriples, h⟩ := Scanner.bind_eq_ok.1 h
    obtain rfl := Except.ok.inj h
    rw [document]
    simp only [hd, htriples]
    rfl

theorem document_of_item_error {a : Located} {rest : Tokens} {e : ReadError}
    (h : item t a rest = .error e) : (document t (a :: rest)).2 = .error e := by
  cases hd : directive? a.token with
  | some d =>
    rw [item_directive hd] at h
    rw [document]
    simp only [hd]
    cases hdeclared : declaration t rest d with
    | error e' => simpa [hdeclared, bind, Except.bind] using h
    | ok declared =>
      simp only [hdeclared, bind, Except.bind] at h
      split at h
      next hdotted =>
        simp only [if_pos hdotted]
        cases hdot : Tokens.mark .dot (failure .dot) declared.rest with
        | error e' => simpa [hdot] using h
        | ok dot => simp [hdot, pure, Except.pure] at h
      next => cases h
  | none =>
    rw [item_statement hd] at h
    rw [document]
    simp only [hd]
    cases hstatement : statement t (a :: rest) with
    | error e' => simpa [hstatement, bind, Except.bind] using h
    | ok triples => simp [hstatement, bind, Except.bind, pure, Except.pure] at h

theorem document_unquoted {t t' : Namespaces} {ts us : Tokens} {triples : List Triple}
    (h : Unquoted n x ts us) (hread : document t ts = (t', .ok triples)) :
    ¬ n.Splits x ∧ document t us = (t', .ok triples) ∨
      n.Splits x ∧ ∃ e, (document t us).2 = .error e := by
  cases h.next with
  | nil hwhole => exact .inl ⟨hwhole, hread⟩
  | @same tok text text' ts us rest =>
    have hitems := agree_item t h rest
    cases hitem : item t ⟨tok, text⟩ ts with
    | error e =>
      have hfails := document_of_item_error hitem
      rw [hread] at hfails
      cases hfails
    | ok r =>
      rw [document_of_item hitem] at hread
      obtain ⟨rfl, hmap⟩ := Prod.mk.inj hread
      rcases hitems r hitem with ⟨r', hitem', hvalue, hrest⟩ | ⟨hsplit, e, he⟩
      · have hsame : r'.value = r.value := hvalue
        rw [document_of_item hitem', hsame]
        cases hmore : (document r.value.1 r.rest).2 with
        | error e => simp [hmore, Except.map] at hmap
        | ok more =>
          have hlt := r.shorter
          rw [hmore] at hmap
          rcases document_unquoted hrest (Prod.ext rfl hmore) with
            ⟨hwhole, hrest'⟩ | ⟨hsplit, e, he⟩
          · exact .inl ⟨hwhole, by rw [hrest', hmap]⟩
          · exact .inr ⟨hsplit, e, by rw [he]; rfl⟩
      · exact .inr ⟨hsplit, e, document_of_item_error he⟩
  | number a b c text rest =>
    rw [document] at hread
    cases hread
termination_by ts.length

end LinkedRaces.Turtle.Reader
