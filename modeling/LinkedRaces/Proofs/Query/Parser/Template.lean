import LinkedRaces.Proofs.Graph.Turtle.Reader
import LinkedRaces.Proofs.Lexical.Simulation
import LinkedRaces.Proofs.Query.Parser.Groups
import LinkedRaces.Proofs.Query.Pattern
import Mathlib.Data.List.Chain

/-!
Templates and graph documents. The tokens that make triples in a document without directives make
the same triples as patterns in a template: the reader of templates simulates the reader of
documents, part by part.
-/

namespace LinkedRaces

def Token.isString : Token → Bool
  | string _ => true
  | _ => false

namespace Turtle.Reader

/-- Behind `x` the token `y` is no directive: it cannot be one, or it is the language of a
string. -/
def NoDirective (x y : Token) : Prop := directive? y = none ∨ x.isString

instance : DecidableRel NoDirective :=
  fun x y => inferInstanceAs (Decidable (directive? y = none ∨ x.isString))

def Undirected (ts : List Token) : Prop := (Token.mark .dot :: ts).IsChain NoDirective

instance (ts : List Token) : Decidable (Undirected ts) :=
  inferInstanceAs (Decidable (List.IsChain _ _))

theorem Undirected.head {x : Token} {ts : List Token} (h : Undirected (x :: ts)) :
    directive? x = none := by
  obtain ⟨hx | hstring, -⟩ := List.isChain_cons_cons.1 h
  · exact hx
  · cases hstring

end Turtle.Reader

namespace QueryParser

open Turtle.Reader (NoDirective Undirected)

variable {t : Namespaces} {more : List Token}

/-- The same tokens, before a closing brace and more in the second list. -/
structure Shared (more : List Token) (ts us : Tokens) : Prop where
  tokens : us.map Located.token = ts.map Located.token ++ .mark .closeBrace :: more
  linked : (ts.map Located.token).IsChain NoDirective

theorem lockstep_shared (more : List Token) : Lockstep (Shared more) where
  next := by
    intro x ts us h
    obtain ⟨y, us', rfl, hy, hus⟩ := List.map_eq_cons_iff.1 h.tokens
    exact ⟨y, us', rfl, hy, hus, h.linked.tail⟩
  stop := by
    intro us h
    obtain ⟨⟨_, text⟩, us', rfl, rfl, -⟩ := List.map_eq_cons_iff.1 h.tokens
    exact ⟨text, us', rfl⟩

def IsName : Token → Prop
  | .iri _ | .prefixed .. => True
  | _ => False

theorem isName_of_iri {x : Located} {ts : Tokens} {r : Reading Located Iri (x :: ts).length}
    (h : Turtle.Reader.iri t (x :: ts) = .ok r) : IsName x.token := by
  simp only [Turtle.Reader.iri] at h
  split at h <;> simp_all [IsName, Turtle.Reader.fail]

theorem simulates_iri : Simulates (Shared more) id (Turtle.Reader.iri t) (iri t) := by
  intro ts us r h hread
  cases ts with
  | nil => cases hread
  | cons x ts =>
    obtain ⟨y, us', rfl, hy, hnext⟩ := (lockstep_shared more).next h
    have hname := isName_of_iri hread
    simp only [Turtle.Reader.iri] at hread
    simp only [iri, hy]
    cases hx : x.token with
    | iri body =>
      simp only [hx] at hread ⊢
      obtain rfl := Except.ok.inj hread
      exact Tokens.took_similar (f := id) _ y hnext
    | prefixed label name =>
      simp only [hx] at hread ⊢
      cases hexpand : t.expand? label name with
      | none => simp [hexpand, Turtle.Reader.fail] at hread
      | some i =>
        simp only [hexpand] at hread ⊢
        obtain rfl := Except.ok.inj hread
        exact Tokens.took_similar (f := id) _ y hnext
    | _ => simp [hx, IsName] at hname

theorem terms_of_isName {y : Located} (h : IsName y.token) (us : Tokens) :
    subject t (y :: us) = (iri t (y :: us)).map (·.map .iri) ∧
      predicate t (y :: us) = (iri t (y :: us)).map (·.map .iri) ∧
      object t (y :: us) = (iri t (y :: us)).map (·.map .iri) := by
  simp only [subject, predicate, object]
  cases hy : y.token with
  | iri body =>
    simp only
    cases iri t (y :: us) <;> exact ⟨rfl, rfl, rfl⟩
  | prefixed label name =>
    simp only
    cases iri t (y :: us) <;> exact ⟨rfl, rfl, rfl⟩
  | _ => simp [hy, IsName] at h

theorem simulates_subject : Simulates (Shared more) Term.iri (Turtle.Reader.iri t) (subject t) := by
  intro ts us r h hread
  cases ts with
  | nil => cases hread
  | cons x ts =>
    obtain ⟨y, us', rfl, hy, -⟩ := (lockstep_shared more).next h
    obtain ⟨r', hread', hvalue, hrest⟩ := simulates_iri h hread
    rw [(terms_of_isName (hy ▸ isName_of_iri hread) us').1, hread']
    exact ⟨_, rfl, congrArg Term.iri hvalue, hrest⟩

theorem simulates_predicate :
    Simulates (Shared more) Term.iri (Turtle.Reader.verb t) (predicate t) := by
  intro ts us r h hread
  cases ts with
  | nil => cases hread
  | cons x ts =>
    obtain ⟨y, us', rfl, hy, hnext⟩ := (lockstep_shared more).next h
    by_cases hx : x.token = .word "a"
    · obtain ⟨_, text⟩ := x
      obtain rfl : _ = Token.word "a" := hx
      obtain rfl := Except.ok.inj hread
      simp only [predicate, hy, if_true]
      exact Tokens.took_similar (f := Term.iri) _ y hnext
    · rw [Turtle.Reader.verb_eq_iri hx] at hread
      obtain ⟨r', hread', hvalue, hrest⟩ := simulates_iri h hread
      rw [(terms_of_isName (hy ▸ isName_of_iri hread) us').2.1, hread']
      exact ⟨_, rfl, congrArg Term.iri hvalue, hrest⟩

theorem exists_of_object {x : Located} {ts : Tokens} {r : Reading Located Term (x :: ts).length}
    (h : Turtle.Reader.object t (x :: ts) = .ok r) (hx : x.token.shorthand? = none) :
    (∃ value l, x.token = .string value ∧
      Tokens.quoted (Turtle.Reader.iri t) value x ts = .ok l ∧ r = l.map .literal) ∨
      ∃ i, Turtle.Reader.iri t (x :: ts) = .ok i ∧ r = i.map .iri := by
  simp only [Turtle.Reader.object, hx] at h
  split at h
  · next value hvalue =>
    obtain ⟨l, hl, heq⟩ := Scanner.bind_eq_ok.1 h
    exact .inl ⟨value, l, hvalue, hl, (Except.ok.inj heq).symm⟩
  · next hnone _ => cases hnone
  · cases h
  · obtain ⟨i, hi, heq⟩ := Scanner.bind_eq_ok.1 h
    exact .inr ⟨i, hi, (Except.ok.inj heq).symm⟩

theorem simulates_object : Simulates (Shared more) id (Turtle.Reader.object t) (object t) := by
  intro ts us r h hread
  cases ts with
  | nil => cases hread
  | cons x ts =>
    obtain ⟨y, us', rfl, hy, hnext⟩ := (lockstep_shared more).next h
    cases hx : x.token.shorthand? with
    | some l =>
      rw [Turtle.Reader.object_of_shorthand hx] at hread
      obtain rfl := Except.ok.inj hread
      rw [object_of_shorthand (hy ▸ hx)]
      exact Tokens.took_similar (f := id) _ y hnext
    | none =>
      rcases exists_of_object hread hx with ⟨value, l, hvalue, hl, rfl⟩ | ⟨i, hi, rfl⟩
      · obtain ⟨l', hl', hsame, hrest⟩ :=
          Tokens.quoted_similar (lockstep_shared more) simulates_iri value x y hnext hl
        simp only [object, literal, hy, hvalue, hl', bind, Except.bind]
        exact ⟨_, rfl, congrArg Term.literal hsame, hrest⟩
      · obtain ⟨i', hi', hsame, hrest⟩ := simulates_iri h hi
        rw [(terms_of_isName (hy ▸ isName_of_iri hi) us').2.2, hi']
        exact ⟨_, rfl, congrArg Term.iri hsame, hrest⟩

theorem rejectPath_of_object {ts us : Tokens} {r : Reading Located Term ts.length}
    (h : Shared more ts us) (hread : Turtle.Reader.object t ts = .ok r) :
    rejectPath us = .ok () := by
  cases ts with
  | nil => cases hread
  | cons x ts =>
    obtain ⟨⟨_, text⟩, us', rfl, rfl, -⟩ := (lockstep_shared more).next h
    refine rejectPath_cons (fun m hm => ?_) text us'
    have hshort : x.token.shorthand? = none := by rw [hm]; rfl
    rcases exists_of_object hread hshort with ⟨value, l, hvalue, -⟩ | ⟨i, hi, -⟩
    · simp [hm] at hvalue
    · simpa [hm, IsName] using isName_of_iri hi

theorem simulates_predicateObjects (s : Iri) :
    Simulates (Shared more) (List.map Triple.pattern) (Turtle.Reader.verbObjects t s)
      (predicateObjects t (.iri s)) := by
  intro ts us r h hread
  obtain ⟨p, hp, hobjects⟩ := Scanner.bind_eq_ok.1 hread
  obtain ⟨objects, ho, heq⟩ := Scanner.bind_eq_ok.1 hobjects
  obtain rfl := Except.ok.inj heq
  obtain ⟨p', hp', hverb, hrest⟩ := simulates_predicate h hp
  obtain ⟨objects', ho', hvalues, hleft⟩ :=
    Tokens.simulates_commaSeparated (lockstep_shared more) simulates_object hrest ho
  have hpath : rejectPath p'.rest = .ok () := by
    rw [Tokens.commaSeparated] at ho
    obtain ⟨o, hfirst, -⟩ := Scanner.bind_eq_ok.1 ho
    exact rejectPath_of_object hrest hfirst
  simp only [predicateObjects, hp', hpath, ho', bind, Except.bind, pure, Except.pure]
  refine ⟨_, rfl, ?_, hleft⟩
  simp [Reading.andThen, Reading.followedBy, Reading.weaken, Reading.loosen, Reading.map, hverb,
    hvalues, Triple.pattern]

theorem atStatementEnd_of_verbObjects {s : Iri} {ts us : Tokens}
    {r : Reading Located (List Triple) ts.length} (h : Shared more ts us)
    (hread : Turtle.Reader.verbObjects t s ts = .ok r) : atStatementEnd us = false := by
  obtain ⟨p, hp, -⟩ := Scanner.bind_eq_ok.1 hread
  cases ts with
  | nil => cases hp
  | cons x ts =>
    obtain ⟨y, us', rfl, hy, -⟩ := (lockstep_shared more).next h
    simp only [atStatementEnd, hy]
    by_cases hx : x.token = .word "a"
    · rw [hx]
      decide
    · rw [Turtle.Reader.verb_eq_iri hx] at hp
      have hname := isName_of_iri hp
      cases hx : x.token with
      | iri body => rfl
      | prefixed label name => rfl
      | _ => simp [hx, IsName] at hname

theorem atStatementEnd_of_atDot {ts us : Tokens} (h : Shared more ts us)
    (hdot : Turtle.Reader.atDot ts) : atStatementEnd us := by
  cases ts with
  | nil => cases hdot
  | cons x ts =>
    obtain ⟨y, us', rfl, hy, -⟩ := (lockstep_shared more).next h
    have hx : x.token = .mark .dot := by simpa [Turtle.Reader.atDot] using hdot
    simp [atStatementEnd, hy, hx]

theorem simulates_predicates (s : Iri) :
    Simulates (Shared more) (List.map Triple.pattern) (Turtle.Reader.predicates t s)
      (predicates t (.iri s)) :=
  Tokens.simulates_semicolonSeparated (lockstep_shared more) (simulates_predicateObjects s)
    atStatementEnd_of_atDot atStatementEnd_of_verbObjects

theorem isName_of_statement {x : Located} {ts : Tokens}
    {r : Reading Located (List Triple) (x :: ts).length}
    (h : Turtle.Reader.statement t (x :: ts) = .ok r) : IsName x.token := by
  obtain ⟨s, hs, -⟩ := Scanner.bind_eq_ok.1 h
  exact isName_of_iri hs

theorem statement_similar {ts us : Tokens} {r : Reading Located (List Triple) ts.length}
    (h : Shared more ts us) (hread : Turtle.Reader.statement t ts = .ok r) :
    ∃ r', statement t us = .ok r' ∧ r.Similar (Shared more) (List.map Triple.pattern) r' ∧
      Undirected (r.rest.map Located.token) := by
  obtain ⟨s, hs, hpredicates⟩ := Scanner.bind_eq_ok.1 hread
  obtain ⟨triples, ht, hdot⟩ := Scanner.bind_eq_ok.1 hpredicates
  obtain ⟨dot, hd, heq⟩ := Scanner.bind_eq_ok.1 hdot
  obtain rfl := Except.ok.inj heq
  obtain ⟨s', hs', hsubject, hrest⟩ := simulates_subject h hs
  obtain ⟨patterns, hp, hvalues, hleft⟩ := simulates_predicates s.value hrest ht
  obtain ⟨triples, ls, hlt⟩ := triples
  cases ls with
  | nil => cases hd
  | cons x ls =>
    have hx : x.token = .mark .dot := by
      simp only [Tokens.mark] at hd
      split at hd
      · assumption
      · cases hd
    simp only [Tokens.mark, hx, if_true] at hd
    obtain rfl := Except.ok.inj hd
    obtain ⟨patterns, us', hlt'⟩ := patterns
    obtain ⟨y, us', rfl, hy, hnext⟩ := (lockstep_shared more).next hleft
    have hlinked := hleft.linked
    simp only [List.map_cons, hx] at hlinked
    rw [← hsubject] at hp
    have hskip : (s'.andThen ⟨patterns, y :: us', hlt'⟩).skip? (Tokens.isMark .dot) =
        some ⟨patterns, us', by have := s'.shorter; simp at hlt'; omega⟩ := by
      simp [Reading.andThen, Reading.followedBy, Reading.weaken, Reading.loosen, Reading.skip?,
        Tokens.isMark, hy, hx]
    simp only [statement, hs', hp, bind, Except.bind, hskip]
    exact ⟨_, rfl, ⟨hvalues, hnext⟩, hlinked⟩

theorem templateParts_of_document {ts us : Tokens} {triples : List Triple}
    (h : Shared more ts us) (hundirected : Undirected (ts.map Located.token))
    (hread : (Turtle.Reader.document t ts).2 = .ok triples) :
    ∃ r, templateParts t us = .ok r ∧ r.value = triples.map Triple.pattern ∧
      r.rest.map Located.token = more := by
  cases ts with
  | nil =>
    rw [Turtle.Reader.document] at hread
    obtain rfl := Except.ok.inj hread
    obtain ⟨⟨_, text⟩, us', rfl, rfl, hus⟩ := List.map_eq_cons_iff.1 h.tokens
    exact ⟨_, by rw [templateParts, if_pos rfl]; rfl, rfl, hus⟩
  | cons x ts =>
    have hdirective : Turtle.Reader.directive? x.token = none := hundirected.head
    rw [Turtle.Reader.document] at hread
    simp only [hdirective] at hread
    cases hstatement : Turtle.Reader.statement t (x :: ts) with
    | error e => simp [hstatement] at hread
    | ok r =>
      obtain ⟨first, rest, hlt⟩ := r
      obtain ⟨r', hread', ⟨hvalue, hrest⟩, hnext⟩ := statement_similar h hstatement
      simp only [hstatement] at hread
      cases hmore : (Turtle.Reader.document t rest).2 with
      | error e => simp [hmore, Except.map] at hread
      | ok others =>
        obtain rfl : first ++ others = triples := by simpa [hmore, Except.map] using hread
        obtain ⟨r₂, hread₂, hvalue₂, hrest₂⟩ := templateParts_of_document hrest hnext hmore
        obtain ⟨y, us', rfl, hy, -⟩ := (lockstep_shared more).next h
        have hname : IsName y.token := hy ▸ isName_of_statement hstatement
        have hbrace : y.token ≠ .mark .closeBrace := fun heq => by simp [heq, IsName] at hname
        have hdot : y.token ≠ .mark .dot := fun heq => by simp [heq, IsName] at hname
        rw [templateParts]
        simp only [if_neg hbrace, if_neg hdot, hread', bind, Except.bind, hread₂]
        refine ⟨_, rfl, ?_, hrest₂⟩
        have hfirst : r'.value = first.map Triple.pattern := hvalue
        simp [Reading.andThen, Reading.followedBy, Reading.weaken, Reading.loosen, Reading.map,
          hfirst, hvalue₂]
termination_by ts.length

end QueryParser

end LinkedRaces
