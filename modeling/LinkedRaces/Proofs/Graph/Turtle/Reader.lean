import LinkedRaces.Graph.Turtle.Reader
import LinkedRaces.Proofs.Lexical.Lines
import LinkedRaces.Proofs.Rdf.Literal

/-!
The Turtle reader on tokens that are given: names, objects, statements with their lists of
predicates and objects, and directives. Each is taken from the front of any document.
-/

namespace LinkedRaces

def Namespaces.Names (t : Namespaces) : Token → Iri → Prop
  | .iri body, i => t.resolve body = i
  | .prefixed label name, i => t.expand? label name = some i
  | _, _ => False

namespace Turtle

namespace Reader

variable {t : Namespaces} {tok : Token} {i s p : Iri}

theorem iri_of_names (h : t.Names tok i) (text : List Char) (rest : Tokens) :
    iri t (⟨tok, text⟩ :: rest) = Tokens.took i ⟨tok, text⟩ rest := by
  cases tok with
  | iri body =>
    have : t.resolve body = i := h
    simp [iri, this]
  | prefixed label name =>
    have : t.expand? label name = some i := h
    simp [iri, this]
  | _ => exact absurd h (by simp [Namespaces.Names])

theorem takes_iri (h : t.Names tok i) : Takes (iri t) [tok] i Anything :=
  .single fun text rest _ => iri_of_names h text rest

theorem takes_object_iri (h : t.Names tok i) : Takes (object t) [tok] (.iri i) Anything := by
  refine .single fun text rest _ => ?_
  have hread := iri_of_names h text rest
  cases tok with
  | iri body => simp only [object, Token.shorthand?, hread]; rfl
  | prefixed label name => simp only [object, Token.shorthand?, hread]; rfl
  | _ => exact absurd h (by simp [Namespaces.Names])

theorem object_of_shorthand {l : Literal} (h : tok.shorthand? = some l) (text : List Char)
    (rest : Tokens) :
    object t (⟨tok, text⟩ :: rest) = Tokens.took (.literal l) ⟨tok, text⟩ rest := by
  simp only [object, h]
  split
  · cases h
  · next heq =>
    obtain rfl := Option.some.inj heq
    rfl
  · next hnone => cases hnone
  · next hnone => cases hnone

theorem takes_object_literal {name : Iri → Token} {l : Literal}
    (hdatatype : ∀ datatype, l.kind = .typed datatype → t.Names (name datatype) datatype) :
    Takes (object t) (l.tokens name) (.literal l) (NextIsNot ExtendsLiteral) := by
  intro ls rest hls hrest
  obtain ⟨⟨_, text⟩, ls, rfl, rfl, hsuffix⟩ := List.map_eq_cons_iff.1 hls
  obtain ⟨hlt, hread⟩ := Tokens.quoted_suffix (fun d hd => takes_iri (hdatatype d hd)) hsuffix
    ⟨.string l.lexical, text⟩ hrest
  refine ⟨hlt, ?_⟩
  simp only [List.cons_append, object, hread]
  rfl

theorem verb_eq_iri {x : Located} (hx : x.token ≠ .word "a") (ts : Tokens) :
    verb t (x :: ts) = iri t (x :: ts) := by
  rw [verb.eq_2]
  rintro text rest heq
  exact hx (congrArg Located.token (List.cons.inj heq).1)

def NamesVerb (t : Namespaces) (tok : Token) (p : Iri) : Prop :=
  tok = .word "a" ∧ p = Vocabulary.rdfType ∨ t.Names tok p

theorem takes_verb (h : NamesVerb t tok p) : Takes (verb t) [tok] p Anything := by
  refine .single fun text rest _ => ?_
  rcases h with ⟨rfl, rfl⟩ | h
  · simp [verb]
  · have hread := iri_of_names h text rest
    cases tok with
    | iri body => simpa [verb] using hread
    | prefixed label name => simpa [verb] using hread
    | _ => exact absurd h (by simp [Namespaces.Names])

structure Phrase where
  verb : Token
  predicate : Iri
  objects : List (List Token × Term)

namespace Phrase

def tokens (x : Phrase) : List Token := x.verb :: Tokens.sepBy .comma (x.objects.map Prod.fst)

def triples (s : Iri) (x : Phrase) : List Triple := x.objects.map fun o => ⟨s, x.predicate, o.2⟩

structure Readable (t : Namespaces) (x : Phrase) : Prop where
  verb : NamesVerb t x.verb x.predicate
  nonempty : x.objects ≠ []
  objects : ∀ o ∈ x.objects, Takes (object t) o.1 o.2 (NextIsNot ExtendsLiteral)

end Phrase

theorem takes_verbObjects {x : Phrase} (h : x.Readable t) (s : Iri) :
    Takes (verbObjects t s) x.tokens (x.triples s) fun rest =>
      NextIsNot ExtendsLiteral rest ∧ NextIsNot (· = .mark .comma) rest := by
  intro ls rest hls hrest
  obtain ⟨v, lo, rfl, hv, ho⟩ := List.map_eq_cons_iff.1 hls
  obtain ⟨hlt₁, hread₁⟩ := takes_verb h.verb [v] (lo ++ rest) (by simp [hv]) trivial
  obtain ⟨hlt₂, hread₂⟩ := Tokens.takes_commaSeparated
    (fun _ _ => nextIsNot_cons (not_extendsLiteral_mark (by decide)) _) h.nonempty h.objects
    lo rest ho hrest
  refine ⟨by grind, ?_⟩
  simp only [List.singleton_append] at hread₁
  simp only [List.cons_append, verbObjects, hread₁, bind, Except.bind, hread₂]
  simp only [Reading.andThen, Reading.followedBy, Reading.loosen, Reading.weaken, Reading.map,
    List.map_map, pure, Except.pure]
  rfl

theorem beginsPart_of_namesVerb (h : NamesVerb t tok p) (us : List Token) :
    Tokens.BeginsPart atDot (tok :: us) := by
  rcases h with ⟨rfl, rfl⟩ | h
  · exact ⟨_, us, rfl, by simp, fun _ _ => by simp [atDot]⟩
  · cases tok with
    | iri body => exact ⟨_, us, rfl, by simp, fun _ _ => by simp [atDot]⟩
    | prefixed label name => exact ⟨_, us, rfl, by simp, fun _ _ => by simp [atDot]⟩
    | _ => exact absurd h (by simp [Namespaces.Names])

def statementTokens (tok : Token) (phrases : List Phrase) : List Token :=
  tok :: (Tokens.sepBy .semicolon (phrases.map Phrase.tokens) ++ [.mark .dot])

theorem takes_predicates {phrases : List Phrase} (hne : phrases ≠ [])
    (h : ∀ x ∈ phrases, x.Readable t) (s : Iri) :
    Takes (predicates t s) (Tokens.sepBy .semicolon (phrases.map Phrase.tokens))
      (phrases.flatMap (Phrase.triples s)) fun rest =>
        (NextIsNot ExtendsLiteral rest ∧ NextIsNot (· = .mark .comma) rest) ∧
          NextIsNot (· = .mark .semicolon) rest := by
  have hparts := Tokens.takes_semicolonSeparated (ε := ReadError)
    (fun text rest => (⟨nextIsNot_cons (not_extendsLiteral_mark (by decide)) rest,
      nextIsNot_cons (by simp) rest⟩ : NextIsNot ExtendsLiteral (⟨.mark .semicolon, text⟩ :: rest) ∧
        NextIsNot (· = .mark .comma) (⟨.mark .semicolon, text⟩ :: rest)))
    (show phrases.map (fun x => (x.tokens, x.triples s)) ≠ [] by simpa using hne)
    (fun q hq => by
      obtain ⟨x, hx, rfl⟩ := List.mem_map.1 hq
      exact beginsPart_of_namesVerb (h x hx).verb _)
    (fun q hq => by
      obtain ⟨x, hx, rfl⟩ := List.mem_map.1 hq
      exact takes_verbObjects (h x hx) s)
  simpa only [predicates, List.map_map, Function.comp_def, List.flatMap_map] using hparts

theorem takes_statement (hs : t.Names tok s) {phrases : List Phrase} (hne : phrases ≠ [])
    (h : ∀ x ∈ phrases, x.Readable t) :
    Takes (statement t) (statementTokens tok phrases) (phrases.flatMap (Phrase.triples s))
      Anything := by
  intro ls rest hls _
  obtain ⟨x, ls, rfl, hx, hls⟩ := List.map_eq_cons_iff.1 hls
  obtain ⟨lp, ld, rfl, hp, hd⟩ := List.map_eq_append_iff.1 hls
  obtain ⟨⟨_, text⟩, rfl, rfl⟩ := List.map_eq_singleton_iff.1 hd
  obtain ⟨hlt₁, hread₁⟩ := takes_iri hs [x] (lp ++ (⟨.mark .dot, text⟩ :: rest)) (by simp [hx])
    trivial
  obtain ⟨hlt₂, hread₂⟩ := takes_predicates hne h s lp (⟨.mark .dot, text⟩ :: rest) hp
    ⟨⟨nextIsNot_cons (not_extendsLiteral_mark (by decide)) _, nextIsNot_cons (by simp) _⟩,
      nextIsNot_cons (by simp) _⟩
  obtain ⟨hlt₃, hread₃⟩ := Tokens.takes_mark .dot (failure .dot) [⟨.mark .dot, text⟩] rest rfl
    trivial
  simp only [List.singleton_append] at hread₁ hread₃
  rw [List.cons_append, List.append_assoc, List.singleton_append]
  refine ⟨by grind, ?_⟩
  simp only [statement, hread₁, bind, Except.bind, hread₂, hread₃]
  rfl

theorem directive?_of_names (h : t.Names tok i) : directive? tok = none := by
  cases tok with
  | iri body => rfl
  | prefixed label name => rfl
  | _ => exact absurd h (by simp [Namespaces.Names])

theorem document_statement (hs : t.Names tok s) {phrases : List Phrase} (hne : phrases ≠ [])
    (h : ∀ x ∈ phrases, x.Readable t) {ls : Tokens}
    (hls : ls.map Located.token = statementTokens tok phrases) (rest : Tokens) :
    document t (ls ++ rest) =
      ((document t rest).1, (document t rest).2.map (phrases.flatMap (Phrase.triples s) ++ ·)) := by
  obtain ⟨hlt, hread⟩ := takes_statement hs hne h ls rest hls trivial
  obtain ⟨x, ls, rfl, rfl, -⟩ := List.map_eq_cons_iff.1 hls
  simp only [List.cons_append] at hread ⊢
  rw [document]
  simp only [directive?_of_names hs, hread]

theorem document_prefix (t : Namespaces) {label ns : String} {ls : Tokens}
    (hls : ls.map Located.token =
      [.tag "prefix", .prefixed label "", .iri ns, .mark .dot]) (rest : Tokens) :
    document t (ls ++ rest) = document (t.insert label (t.resolve ns).text) rest := by
  obtain ⟨⟨_, x₁⟩, ls, rfl, rfl, h₁⟩ := List.map_eq_cons_iff.1 hls
  obtain ⟨⟨_, x₂⟩, ls, rfl, rfl, h₂⟩ := List.map_eq_cons_iff.1 h₁
  obtain ⟨⟨_, x₃⟩, ls, rfl, rfl, h₃⟩ := List.map_eq_cons_iff.1 h₂
  obtain ⟨⟨_, x₄⟩, rfl, rfl⟩ := List.map_eq_singleton_iff.1 h₃
  simp only [List.cons_append, List.nil_append]
  rw [document]
  rfl

theorem document_base (t : Namespaces) {base : String} {ls : Tokens}
    (hls : ls.map Located.token = [.tag "base", .iri base, .mark .dot]) (rest : Tokens) :
    document t (ls ++ rest) = document (t.setBase (t.resolve base)) rest := by
  obtain ⟨⟨_, x₁⟩, ls, rfl, rfl, h₁⟩ := List.map_eq_cons_iff.1 hls
  obtain ⟨⟨_, x₂⟩, ls, rfl, rfl, h₂⟩ := List.map_eq_cons_iff.1 h₁
  obtain ⟨⟨_, x₃⟩, rfl, rfl⟩ := List.map_eq_singleton_iff.1 h₂
  simp only [List.cons_append, List.nil_append]
  rw [document]
  rfl

end Reader

theorem read_of_lexesOutside {text : String} {ts : List Token}
    (hlex : LexesOutside text.toList ts) {t : Namespaces} {triples : List Triple}
    (h : ∀ ls : Tokens, ls.map Located.token = ts →
      Reader.document .empty ls = (t, .ok triples)) : read text = .ok triples := by
  obtain ⟨ls, hls, htokens⟩ := tokenize_of_lexesOutside hlex
  simp [read, readFrom, hls, h ls htokens]

end Turtle

end LinkedRaces
