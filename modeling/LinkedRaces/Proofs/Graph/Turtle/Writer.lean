import LinkedRaces.Graph.Turtle.Writer
import LinkedRaces.Proofs.Graph.Turtle.Reader
import LinkedRaces.Proofs.Graph.Writable
import LinkedRaces.Proofs.Grouping
import LinkedRaces.Proofs.Rdf.Namespaces

/-!
The text of the Turtle writer, token by token. Each name is read as one token, each line as the
tokens of a phrase, and each block as a statement. What a token stands for is up to the table that
the preamble declares: the same IRI, unless a namespace or an IRI is relative.
-/

namespace LinkedRaces

def Term.Absolute : Term → Prop
  | .iri i => i.Absolute
  | .literal l => ∀ datatype, l.kind = .typed datatype → datatype.Absolute
  | .var _ => True

structure Triple.Absolute (x : Triple) : Prop where
  subject : x.subject.Absolute
  predicate : x.predicate.Absolute
  object : x.object.Absolute

namespace Turtle

open Reader

variable {t : Namespaces} {i : Iri}

def iriToken (t : Namespaces) (i : Iri) : Token :=
  match t.abbreviate? i.text with
  | some a => .prefixed a.label (String.ofList a.name)
  | none => i.token

theorem iriToken_ne_mark (t : Namespaces) (i : Iri) (m : Mark) : iriToken t i ≠ .mark m := by
  unfold iriToken
  split <;> simp [Iri.token]

/-- The IRI that `iriText` stands for once the table is declared. -/
def reread (t : Namespaces) (i : Iri) : Iri :=
  match t.abbreviate? i.text with
  | some a => ⟨(t.resolve a.ns).text ++ String.ofList a.name⟩
  | none => t.resolve i.text

theorem names_iriToken (t : Namespaces) (i : Iri) :
    t.declared.Names (iriToken t i) (reread t i) := by
  unfold iriToken reread
  cases ha : t.abbreviate? i.text with
  | none => rfl
  | some a =>
    simp only [Namespaces.Names, Namespaces.expand?_declared, Namespaces.get?_abbreviation ha,
      Option.map_some]

theorem reread_absolute (ht : t.Declarable) (h : i.Absolute) : reread t i = i := by
  unfold reread
  split
  next a ha =>
    have hns : t.resolve a.ns = ⟨a.ns⟩ := ht.resolve_namespace (Namespaces.abbreviate?_spec ha).1
    rw [hns, Namespaces.text_abbreviation ha]
  next => exact Namespaces.resolve_absolute h t

theorem lexes_iriText (ht : t.Spellable) (hi : i.Legible) {x : Context}
    (hx : x.compares = false) : Lexes x (iriText t i).toList [iriToken t i] := by
  rw [iriText, Namespaces.compact?_eq, iriToken]
  cases ha : t.abbreviate? i.text with
  | none => exact lexes_iri hi hx
  | some a =>
    obtain ⟨hmem, -, hlocal⟩ := Namespaces.abbreviate?_spec ha
    have hname := lexes_prefixed (ht.label _ hmem) (Namespaces.isName_of_isLocalName hlocal) x
    simpa [Namespaces.Abbreviation.text] using hname

def subjectToken (t : Namespaces) (s : Iri) : Token :=
  match t.base.bind fun base => s.relativeTo? base.text with
  | some relative => .iri relative
  | none => iriToken t s

theorem subjectToken_ne_mark (t : Namespaces) (s : Iri) (m : Mark) : subjectToken t s ≠ .mark m := by
  unfold subjectToken
  split
  · simp
  · exact iriToken_ne_mark t s m

def rereadSubject (t : Namespaces) (s : Iri) : Iri :=
  match t.base.bind fun base => s.relativeTo? base.text with
  | some relative => t.resolve relative
  | none => reread t s

theorem names_subjectToken (t : Namespaces) (s : Iri) :
    t.declared.Names (subjectToken t s) (rereadSubject t s) := by
  unfold subjectToken rereadSubject
  split
  · rfl
  · exact names_iriToken t s

theorem toList_of_relativeTo? {base relative : String} (h : i.relativeTo? base = some relative) :
    i.text.toList = base.toList ++ relative.toList := by
  obtain ⟨rest, hrest, rfl⟩ := Option.map_eq_some_iff.1 h
  simpa using Iri.eq_append_of_relativeChars? hrest

theorem rereadSubject_absolute (ht : t.Declarable) (h : i.Absolute) : rereadSubject t i = i := by
  unfold rereadSubject
  split
  next relative hr =>
    obtain ⟨base, hbase, hr⟩ := Option.bind_eq_some_iff.1 hr
    obtain ⟨rest, hrest, rfl⟩ := Option.map_eq_some_iff.1 hr
    have hresolve := (Iri.resolveChars_relativeChars? (ht.base base hbase).2 hrest).2
    simp [Namespaces.resolve, hbase, Iri.resolve, hresolve]
  next => exact reread_absolute ht h

theorem lexes_subjectText (ht : t.Spellable) (hi : i.Legible) :
    LexesOutside (subjectText t i).toList [subjectToken t i] := by
  have hne := subjectToken_ne_mark t i
  refine .of_lexes (fun x hx => ?_) (by simpa using (hne _).symm) (by simpa using (hne _).symm)
  cases hr : t.base.bind fun base => i.relativeTo? base.text with
  | none => simpa [subjectText, subjectToken, hr] using
      lexes_iriText ht hi (Context.compares_of_depth hx)
  | some relative =>
    obtain ⟨base, -, hrelative⟩ := Option.bind_eq_some_iff.1 hr
    have hlegible : ∀ c ∈ relative.toList, Scanner.isReferenceChar c := by
      intro c hc
      refine hi c ?_
      rw [toList_of_relativeTo? hrelative]
      exact List.mem_append_right _ hc
    simpa [subjectText, subjectToken, hr] using
      lexes_reference hlegible (Context.compares_of_depth hx)

def predicateToken (t : Namespaces) (p : Iri) : Token :=
  if p = Vocabulary.rdfType then .word "a" else iriToken t p

def rereadPredicate (t : Namespaces) (p : Iri) : Iri :=
  if p = Vocabulary.rdfType then p else reread t p

theorem namesVerb_predicateToken (t : Namespaces) (p : Iri) :
    NamesVerb t.declared (predicateToken t p) (rereadPredicate t p) := by
  unfold predicateToken rereadPredicate
  split
  next hp => exact .inl ⟨rfl, hp⟩
  next => exact .inr (names_iriToken t p)

theorem rereadPredicate_absolute (ht : t.Declarable) (h : i.Absolute) :
    rereadPredicate t i = i := by
  unfold rereadPredicate
  split
  · rfl
  · exact reread_absolute ht h

theorem lexes_predicateText (ht : t.Spellable) (hi : i.Legible) :
    LexesOutside (predicateText t i).toList [predicateToken t i] := by
  unfold predicateText predicateToken
  split
  · exact .of_lexes (fun x _ => show Lexes x ['a'] [.word (String.ofList ['a'])] from
      lexes_word (by decide) x) (by simp) (by simp)
  · have hne := iriToken_ne_mark t i
    exact .of_lexes (fun x hx => lexes_iriText ht hi (Context.compares_of_depth hx))
      (by simpa using (hne _).symm) (by simpa using (hne _).symm)

theorem lexes_literalText (ht : t.Spellable) {l : Literal} (hl : l.Legible) (x : Context) :
    Lexes x (literalText t l).toList (l.tokens (iriToken t)) := by
  unfold literalText
  cases hk : l.kind with
  | typed datatype =>
    have hd : datatype.Legible := by simpa [Literal.Legible, hk] using hl
    have htyped := lexes_typed (x := x) l.lexical fun y hy =>
      lexes_iriText ht hd (Context.compares_of_afterValue hy)
    simpa [Literal.tokens, Literal.suffix, hk] using htyped
  | _ => simpa [Literal.tokens, Literal.suffix, hk] using lexes_literal hl x

theorem lexes_objectText (ht : t.Spellable) {o : Term} (ho : o.check = .ok ())
    (htag : o.TagLegible) :
    LexesOutside (objectText t o).toList (o.tokens (iriToken t)) := by
  have hlegible := Term.legible_of_check ho htag
  refine .of_lexes (fun x hx => ?_) ?_ ?_
  · cases o with
    | iri i => exact lexes_iriText ht hlegible (Context.compares_of_depth hx)
    | literal l => exact lexes_literalText ht hlegible x
    | var name => simp [Term.check] at ho
  · exact Term.mark_notMem_tokens (iriToken_ne_mark t) o (by decide)
  · exact Term.mark_notMem_tokens (iriToken_ne_mark t) o (by decide)

def rereadLiteral (t : Namespaces) (l : Literal) : Literal :=
  match l.kind with
  | .typed datatype => .typed l.lexical (reread t datatype)
  | _ => l

def rereadObject (t : Namespaces) : Term → Term
  | .iri i => .iri (reread t i)
  | .literal l => .literal (rereadLiteral t l)
  | .var name => .var name

theorem takes_literal (t : Namespaces) (l : Literal) :
    Takes (object t.declared) (l.tokens (iriToken t)) (.literal (rereadLiteral t l))
      (NextIsNot ExtendsLiteral) := by
  cases hk : l.kind with
  | typed datatype =>
    have hl : l.tokens (iriToken t) =
        (Literal.typed l.lexical (reread t datatype)).tokens fun _ => iriToken t datatype := by
      simp [Literal.tokens, Literal.suffix, hk, Literal.typed]
    rw [hl, rereadLiteral, hk]
    refine takes_object_literal fun d hd => ?_
    obtain rfl := Literal.Kind.typed.inj hd
    exact names_iriToken t datatype
  | _ =>
    rw [rereadLiteral, hk]
    exact takes_object_literal fun d hd => by simp [hk] at hd

theorem takes_object {o : Term} (ho : o.check = .ok ()) :
    Takes (object t.declared) (o.tokens (iriToken t)) (rereadObject t o)
      (NextIsNot ExtendsLiteral) := by
  cases o with
  | iri i => exact (takes_object_iri (names_iriToken t i)).mono fun _ _ => trivial
  | literal l => exact takes_literal t l
  | var name => simp [Term.check] at ho

theorem rereadObject_absolute (ht : t.Declarable) {o : Term} (h : o.Absolute) :
    rereadObject t o = o := by
  cases o with
  | iri i => rw [rereadObject, reread_absolute ht h]
  | var name => rfl
  | literal l =>
    rw [rereadObject, rereadLiteral]
    split
    next datatype hk => rw [reread_absolute ht (h datatype hk), Literal.typed_eq hk]
    next => rfl

def phrase (t : Namespaces) (p : Iri) (xs : List Triple) : Phrase :=
  ⟨predicateToken t p, rereadPredicate t p,
    xs.map fun x => (x.object.tokens (iriToken t), rereadObject t x.object)⟩

/-- What a triple needs to be written and read again. -/
structure Expressible (x : Triple) : Prop where
  check : x.check = .ok ()
  tag : x.object.TagLegible

/-- What it needs to be read as the same triple. -/
structure Portable (x : Triple) : Prop where
  check : x.check = .ok ()
  absolute : x.Absolute
  tag : x.object.TagLegible

theorem Portable.expressible {x : Triple} (h : Portable x) : Expressible x := ⟨h.check, h.tag⟩

def rereadTriple (t : Namespaces) (x : Triple) : Triple :=
  ⟨rereadSubject t x.subject, rereadPredicate t x.predicate, rereadObject t x.object⟩

theorem rereadTriple_absolute (ht : t.Declarable) {x : Triple} (h : x.Absolute) :
    rereadTriple t x = x := by
  rw [rereadTriple, rereadSubject_absolute ht h.subject, rereadPredicate_absolute ht h.predicate,
    rereadObject_absolute ht h.object]

theorem lexes_predicateLine (ht : t.Spellable) {p : Iri} (hp : p.Legible) {xs : List Triple}
    (h : ∀ x ∈ xs, Expressible x) :
    LexesOutside (predicateLine t p xs).toList (phrase t p xs).tokens := by
  have hblanks : ∀ c ∈ [' '], Text.isBlank c := List.all_eq_true.1 (by decide)
  have hobjects := LexesOutside.sepBy .comma ' ' [] (by decide) (by decide) hblanks
    fun x hx => lexes_objectText ht (Triple.check_eq_ok_iff.1 (h x hx).check).2.2 (h x hx).tag
  have hline := (lexes_predicateText ht hp).spaced (show Text.isBlank ' ' by decide) hobjects
  have htext : (predicateLine t p xs).toList = (predicateText t p).toList ++ ' ' ::
      [' ', ',', ' '].intercalate (xs.map fun x => (objectText t x.object).toList) := by
    simp [predicateLine, Text.join, String.toList_intercalate, Function.comp_def]
  rw [htext, Phrase.tokens, phrase, List.map_map]
  exact hline

theorem readable_phrase (t : Namespaces) (p : Iri) {xs : List Triple} (hne : xs ≠ [])
    (h : ∀ x ∈ xs, x.check = .ok ()) : (phrase t p xs).Readable t.declared := by
  refine ⟨namesVerb_predicateToken t p, by simpa [phrase] using hne, fun o ho => ?_⟩
  obtain ⟨x, hx, rfl⟩ := List.mem_map.1 ho
  exact takes_object (Triple.check_eq_ok_iff.1 (h x hx)).2.2

def phrases (t : Namespaces) (xs : List Triple) : List Phrase :=
  (groupBy Triple.predicate xs).map fun g => phrase t g.1 g.2

def blockChars (t : Namespaces) (s : Iri) (xs : List Triple) : List Char :=
  '\n' :: ((subjectText t s).toList ++ ' ' :: ((" ;\n    ".toList).intercalate
    ((groupBy Triple.predicate xs).map fun g => (predicateLine t g.1 g.2).toList) ++ ' ' :: ['.']))

theorem toList_subjectBlock (s : Iri) (xs : List Triple) :
    (subjectBlock t s xs).toList = blockChars t s xs ++ ['\n'] := by
  simp [subjectBlock, blockChars, Text.join, String.toList_intercalate, List.map_map,
    Function.comp_def]

theorem lexes_block (ht : t.Spellable) {s : Iri} (hs : s.Legible) {xs : List Triple}
    (h : ∀ x ∈ xs, Expressible x) :
    LexesOutside (blockChars t s xs) (statementTokens (subjectToken t s) (phrases t xs)) := by
  have hblank : Text.isBlank ' ' := by decide
  have hphrase : ∀ g ∈ groupBy Triple.predicate xs,
      LexesOutside (predicateLine t g.1 g.2).toList (phrase t g.1 g.2).tokens := by
    intro g hg
    obtain ⟨x, hx, hp⟩ := exists_mem_of_mem_groupBy hg
    have hlegible : g.1.Legible :=
      hp ▸ Iri.legible_of_check (Triple.check_eq_ok_iff.1 (h x hx).check).2.1
    exact lexes_predicateLine ht hlegible fun y hy => h y (mem_of_mem_groupBy hg hy)
  have hblanks : ∀ c ∈ ['\n', ' ', ' ', ' ', ' '], Text.isBlank c := List.all_eq_true.1 (by decide)
  have hphrases := LexesOutside.sepBy .semicolon '\n' [' ', ' ', ' ', ' '] (by decide) (by decide)
    hblanks hphrase
  have hdot := hphrases.spaced hblank (LexesOutside.mark .dot (by decide) (by decide))
  have hstatement := (lexes_subjectText ht hs).spaced hblank hdot
  rw [statementTokens, phrases, List.map_map]
  exact hstatement.blank (by decide)

theorem readable_phrases (t : Namespaces) {xs : List Triple} (h : ∀ x ∈ xs, x.check = .ok ()) :
    ∀ y ∈ phrases t xs, y.Readable t.declared := by
  intro y hy
  obtain ⟨g, hg, rfl⟩ := List.mem_map.1 hy
  exact readable_phrase t g.1 ((grouped_groupBy _ xs).nonempty g hg)
    fun y hy => h y (mem_of_mem_groupBy hg hy)

theorem triples_phrases (t : Namespaces) {s : Iri} {xs : List Triple}
    (hs : ∀ x ∈ xs, x.subject = s) :
    (phrases t xs).flatMap (Phrase.triples (rereadSubject t s)) =
      ((groupBy Triple.predicate xs).flatMap Prod.snd).map (rereadTriple t) := by
  rw [phrases, List.flatMap_map, List.map_flatMap]
  refine List.flatMap_congr fun g hg => ?_
  simp only [Phrase.triples, phrase, List.map_map, Function.comp_def]
  refine List.map_congr_left fun x hx => ?_
  rw [rereadTriple, hs x (mem_of_mem_groupBy hg hx), (grouped_groupBy _ xs).key_eq g hg x hx]

end Turtle

end LinkedRaces
