import LinkedRaces.Graph.Writer
import LinkedRaces.Proofs.Graph.Turtle.Reader
import LinkedRaces.Proofs.Graph.Writable

/-!
N-Triples documents read back. The writer refuses nothing that passes the check, each line is read
as the tokens of one statement, and the statements give the triples in their order.
-/

namespace LinkedRaces

namespace NTriples

def tokens (t : Triple) : List Token :=
  t.subject.token :: t.predicate.token :: (t.object.tokens Iri.token ++ [.mark .dot])

/-- What one line needs to be read: no variable, no character that ends a reference, and a language
tag with the right characters. -/
def Readable (t : Triple) : Prop := t.check = .ok () ∧ t.object.TagLegible

theorem lexes_line {t : Triple} (h : Readable t) : LexesOutside t.display.toList (tokens t) := by
  obtain ⟨hs, hp, ho⟩ := Triple.check_eq_ok_iff.1 h.1
  have hblank : Text.isBlank ' ' := by decide
  have hline : t.display.toList = t.subject.display.toList ++ ' ' ::
      (t.predicate.display.toList ++ ' ' :: (t.object.display.toList ++ ' ' :: ['.'])) := by
    simp [Triple.display]
  rw [hline]
  refine (LexesOutside.iri (Iri.legible_of_check hs)).spaced hblank ?_
  refine (LexesOutside.iri (Iri.legible_of_check hp)).spaced hblank ?_
  refine (LexesOutside.term (Term.legible_of_check ho h.2)).spaced hblank ?_
  exact LexesOutside.mark .dot (by decide) (by decide)

theorem write_eq_ok {ts : List Triple} (h : ∀ t ∈ ts, t.check = .ok ()) :
    write ts = .ok (String.join (ts.map fun t => t.display ++ "\n")) := by
  have hlines : ts.mapM line = .ok (ts.map fun t => t.display ++ "\n") := by
    induction ts with
    | nil => rfl
    | cons t ts ih =>
      have ht := h t List.mem_cons_self
      rw [List.mapM_cons, ih fun u hu => h u (List.mem_cons_of_mem t hu)]
      simp [line, ht, bind, Except.bind, pure, Except.pure]
  simp [write, hlines, bind, Except.bind, pure, Except.pure]

open Turtle.Reader

theorem names_token (i : Iri) : Namespaces.empty.Names i.token i := by
  simp [Namespaces.Names, Iri.token, Namespaces.resolve, Namespaces.empty]

def phrase (t : Triple) : Phrase :=
  ⟨t.predicate.token, t.predicate, [(t.object.tokens Iri.token, t.object)]⟩

theorem statementTokens_phrase (t : Triple) :
    statementTokens t.subject.token [phrase t] = tokens t := by
  simp [statementTokens, phrase, Phrase.tokens, Tokens.sepBy, tokens]

theorem readable_phrase {t : Triple} (h : Readable t) : (phrase t).Readable .empty := by
  refine ⟨.inr (names_token t.predicate), by simp [phrase], ?_⟩
  simp only [phrase, List.mem_singleton]
  rintro _ rfl
  have ho := (Triple.check_eq_ok_iff.1 h.1).2.2
  cases hobject : t.object with
  | iri i => exact (takes_object_iri (names_token i)).mono fun _ _ => trivial
  | literal l => exact takes_object_literal fun d _ => names_token d
  | var name => simp [hobject, Term.check] at ho

theorem document_lines {ts : List Triple} (h : ∀ t ∈ ts, Readable t) {ls : Tokens}
    (hls : ls.map Located.token = ts.flatMap tokens) :
    document .empty ls = (.empty, .ok ts) := by
  induction ts generalizing ls with
  | nil =>
    obtain rfl := List.map_eq_nil_iff.1 hls
    rw [document]
  | cons t ts ih =>
    rw [List.flatMap_cons, ← statementTokens_phrase] at hls
    obtain ⟨l₁, l₂, rfl, h₁, h₂⟩ := List.map_eq_append_iff.1 hls
    have ht := h t List.mem_cons_self
    rw [document_statement (names_token t.subject) (by simp)
      (by simpa using readable_phrase ht) h₁, ih (fun u hu => h u (List.mem_cons_of_mem t hu)) h₂]
    simp [phrase, Phrase.triples, Except.map]

/-- Every list of triples that pass the check is written, and the document gives the same triples
in the same order. -/
theorem read_write {ts : List Triple} (hcheck : ∀ t ∈ ts, t.check = .ok ())
    (htag : ∀ t ∈ ts, t.object.TagLegible) :
    ∃ text, write ts = .ok text ∧ Turtle.read text = .ok ts := by
  have h : ∀ t ∈ ts, Readable t := fun t ht => ⟨hcheck t ht, htag t ht⟩
  refine ⟨_, write_eq_ok hcheck, ?_⟩
  have hlines := LexesOutside.lines (fun t ht => lexes_line (h t ht)) LexesOutside.nil
  have htext : (String.join (ts.map fun t => t.display ++ "\n")).toList =
      ts.flatMap fun t => t.display.toList ++ ['\n'] := by
    simp [String.toList_join, List.flatMap_map]
  rw [List.append_nil, List.append_nil, ← htext] at hlines
  exact Turtle.read_of_lexesOutside hlines fun ls hls => document_lines h hls

def greeting : Triple :=
  ⟨⟨"http://example.org/race"⟩, ⟨"http://schema.org/name"⟩, .literal (.tagged "\"Lauf\\\n" "de")⟩

theorem read_write_greeting :
    (greeting.check = .ok () ∧ greeting.object.TagLegible) ∧
      ∃ text, write [greeting, greeting] = .ok text ∧ Turtle.read text = .ok [greeting, greeting] := by
  have hcheck : greeting.check = .ok () := by rfl
  have htag : greeting.object.TagLegible := by
    rintro tag ⟨⟩
    decide +kernel
  refine ⟨⟨hcheck, htag⟩, read_write ?_ ?_⟩
  · simpa using hcheck
  · simpa using htag

end NTriples

end LinkedRaces
