import LinkedRaces.Proofs.Query.Grammar
import LinkedRaces.Proofs.Rdf.Literal
import LinkedRaces.Query.Parser.Terms

/-! The terms of queries, read back from their own tokens with a table that has no base. -/

namespace LinkedRaces

namespace QueryParser

open Tokens (took)

variable {t : Namespaces}

theorem iri_token (ht : t.base = none) (i : Iri) (text : List Char) (rest : Tokens) :
    iri t (⟨.iri i.text, text⟩ :: rest) = took i ⟨.iri i.text, text⟩ rest := by
  simp [iri, Namespaces.resolve, ht]

theorem takes_iri (ht : t.base = none) (i : Iri) : Takes (iri t) [i.token] i Anything :=
  .single fun text rest _ => iri_token ht i text rest

theorem takes_literal (ht : t.base = none) (fault : QueryFault) (l : Literal) :
    Takes (literal t fault) (l.tokens Iri.token) l (NextIsNot ExtendsLiteral) := by
  intro ls rest hls hrest
  obtain ⟨⟨_, text⟩, ls, rfl, rfl, hsuffix⟩ := List.map_eq_cons_iff.1 hls
  obtain ⟨hlt, hread⟩ := Tokens.quoted_suffix (fun d _ => takes_iri ht d) hsuffix
    ⟨.string l.lexical, text⟩ hrest
  refine ⟨hlt, ?_⟩
  simp only [List.cons_append, literal, hread]

theorem literal_of_shorthand {tok : Token} {l : Literal} (h : tok.shorthand? = some l)
    (fault : QueryFault) (text : List Char) (rest : Tokens) :
    literal t fault (⟨tok, text⟩ :: rest) = took l ⟨tok, text⟩ rest := by
  simp only [literal, h]
  split
  · cases h
  · next heq =>
    obtain rfl := Option.some.inj heq
    rfl
  · next hnone => cases hnone

theorem object_of_shorthand {tok : Token} {l : Literal} (h : tok.shorthand? = some l)
    (text : List Char) (rest : Tokens) :
    object t (⟨tok, text⟩ :: rest) = took (.literal l) ⟨tok, text⟩ rest := by
  cases tok with
  | integer digits | decimal digits | double digits | word text =>
    simp only [object, literal_of_shorthand h]
    rfl
  | _ => cases h

theorem takes_subject (ht : t.base = none) {s : Term} (hs : s.isLiteral = false) :
    Takes (subject t) (s.tokens Iri.token) s Anything := by
  cases s with
  | iri i =>
    refine .single fun text rest _ => ?_
    simp only [subject, Iri.token, iri_token ht]
    rfl
  | literal l => cases hs
  | var name => exact .single fun text rest _ => by simp [subject]

theorem takes_predicate (ht : t.base = none) {p : Term} (hp : p.isLiteral = false) :
    Takes (predicate t) (p.tokens Iri.token) p Anything := by
  cases p with
  | iri i =>
    refine .single fun text rest _ => ?_
    simp only [predicate, Iri.token, iri_token ht]
    rfl
  | literal l => cases hp
  | var name => exact .single fun text rest _ => by simp [predicate]

theorem takes_object (ht : t.base = none) (o : Term) :
    Takes (object t) (o.tokens Iri.token) o (NextIsNot ExtendsLiteral) := by
  cases o with
  | iri i =>
    refine .single fun text rest _ => ?_
    simp only [object, Iri.token, iri_token ht]
    rfl
  | literal l =>
    intro ls rest hls hrest
    obtain ⟨hlt, hread⟩ := takes_literal ht .object l ls rest hls hrest
    obtain ⟨⟨_, text⟩, ls, rfl, rfl, -⟩ := List.map_eq_cons_iff.1 hls
    refine ⟨hlt, ?_⟩
    simp only [List.cons_append] at hread ⊢
    simp only [object, hread]
    rfl
  | var name => exact .single fun text rest _ => by simp [object]

end QueryParser

end LinkedRaces
