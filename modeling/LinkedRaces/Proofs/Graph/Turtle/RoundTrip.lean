import LinkedRaces.Proofs.Graph.Turtle.Writer

/-!
Turtle documents read back. The preamble gives the reader the table that the writer declares, each
block gives the triples of its subject, and the triples come back grouped by subject and predicate.
If everything is absolute, they are the same triples, and written again they make the same text.
-/

namespace LinkedRaces.Turtle

open Reader

variable {t : Namespaces} {ts : List Triple}

/-- Triples with one subject stand together, and among them those with one predicate. Subjects and
predicates keep the order in which they first occur. -/
def regroup (ts : List Triple) : List Triple :=
  (groupBy Triple.subject ts).flatMap fun g => (groupBy Triple.predicate g.2).flatMap Prod.snd

theorem perm_regroup (ts : List Triple) : (regroup ts).Perm ts :=
  (List.Perm.flatMap_left _ fun g _ => perm_flatMap_groupBy _ g.2).trans
    (perm_flatMap_groupBy _ ts)

theorem groupBy_regroup (ts : List Triple) :
    groupBy Triple.subject (regroup ts) = (groupBy Triple.subject ts).map fun g =>
      (g.1, (groupBy Triple.predicate g.2).flatMap Prod.snd) := by
  have hgrouped := grouped_groupBy Triple.subject ts
  have hmap : Grouped Triple.subject ((groupBy Triple.subject ts).map fun g =>
      (g.1, (groupBy Triple.predicate g.2).flatMap Prod.snd)) := by
    refine ⟨?_, ?_, ?_⟩
    · rw [List.map_map]
      exact hgrouped.nodup
    · simp only [List.forall_mem_map]
      intro g hg hnil
      have hperm := perm_flatMap_groupBy Triple.predicate g.2
      rw [hnil] at hperm
      exact hgrouped.nonempty g hg hperm.symm.eq_nil
    · simp only [List.forall_mem_map]
      intro g hg x hx
      exact hgrouped.key_eq g hg x ((perm_flatMap_groupBy _ g.2).mem_iff.1 hx)
  have hflat := groupBy_flatMap hmap
  rw [List.flatMap_map] at hflat
  exact hflat

/-- The triples of `ts` with those of one subject together, and among them those of one predicate. -/
structure Regrouped (ts us : List Triple) : Prop where
  contiguous : Contiguous Triple.subject us
  subjects : (us.map Triple.subject).eraseDups = (ts.map Triple.subject).eraseDups
  gathered : ∀ s,
    Gathered Triple.predicate (ts.filter (·.subject == s)) (us.filter (·.subject == s))

/-- No other list is like this. -/
theorem regrouped_iff {us : List Triple} : Regrouped ts us ↔ us = regroup ts := by
  constructor
  · intro h
    rw [← h.contiguous.flatMap_groupBy, regroup, groupBy, groupBy, h.subjects, List.flatMap_map,
      List.flatMap_map]
    exact List.flatMap_congr fun s _ => gathered_iff.1 (h.gathered s)
  · rintro rfl
    have hgroups := groupBy_regroup ts
    have hflat : (groupBy Triple.subject (regroup ts)).flatMap Prod.snd = regroup ts := by
      rw [hgroups, List.flatMap_map, regroup]
    obtain ⟨hsubjects, hfilter⟩ := keys_and_filter_of_groupBy (f := fun xs =>
      (groupBy Triple.predicate xs).flatMap Prod.snd) rfl hgroups
    exact ⟨hflat ▸ (grouped_groupBy Triple.subject (regroup ts)).contiguous, hsubjects,
      fun s => gathered_iff.2 (hfilter s)⟩

theorem subjectBlock_regroup (t : Namespaces) (s : Iri) (xs : List Triple) :
    subjectBlock t s ((groupBy Triple.predicate xs).flatMap Prod.snd) = subjectBlock t s xs := by
  rw [subjectBlock, groupBy_flatMap (grouped_groupBy ..), subjectBlock]

theorem write_eq_ok (h : ∀ x ∈ ts, x.check = .ok ()) :
    write t ts = .ok (preamble t ++
      String.join ((groupBy Triple.subject ts).map fun g => subjectBlock t g.1 g.2)) := by
  simp [write, checkAll_eq_ok_iff.2 h, bind, Except.bind, pure, Except.pure]

theorem write_regroup (h : ∀ x ∈ ts, x.check = .ok ()) : write t (regroup ts) = write t ts := by
  have hregroup : ∀ x ∈ regroup ts, x.check = .ok () :=
    fun x hx => h x ((perm_regroup ts).mem_iff.1 hx)
  rw [write_eq_ok hregroup, write_eq_ok h, groupBy_regroup, List.map_map]
  simp only [Function.comp_def, subjectBlock_regroup]

def baseChars (base : Iri) : List Char := ('@' :: "base".toList) ++ ' ' :: (base.display.toList ++ [' ', '.'])

def prefixChars (e : String × String) : List Char :=
  ('@' :: "prefix".toList) ++ ' ' :: ((e.1.toList ++ [':']) ++ ' ' :: (('<' :: (e.2.toList ++ ['>'])) ++ [' ', '.']))

def baseTokens (base : Iri) : List Token := [.tag "base", .iri base.text, .mark .dot]

def prefixTokens (e : String × String) : List Token :=
  [.tag "prefix", .prefixed e.1 "", .iri e.2, .mark .dot]

theorem toList_write_text (t : Namespaces) (ts : List Triple) :
    (preamble t ++ String.join ((groupBy Triple.subject ts).map fun g =>
      subjectBlock t g.1 g.2)).toList =
      (t.base.toList.flatMap fun b => baseChars b ++ ['\n']) ++
        ((t.prefixes.entries.flatMap fun e => prefixChars e ++ ['\n']) ++
          (((groupBy Triple.subject ts).flatMap fun g => blockChars t g.1 g.2 ++ ['\n']) ++ [])) := by
  cases hbase : t.base with
  | none => simp [preamble, hbase, prefixChars, String.toList_join, List.flatMap_map,
      toList_subjectBlock]
  | some base => simp [preamble, hbase, baseChars, prefixChars, Iri.display, String.toList_join,
      List.flatMap_map, toList_subjectBlock]

theorem lexes_base {base : Iri} (h : base.Legible) :
    LexesOutside (baseChars base) (baseTokens base) := by
  have hblank : Text.isBlank ' ' := by decide
  have hend := (LexesOutside.iri h).spaced hblank (.mark .dot (by decide) (by decide))
  exact (LexesOutside.tag "base" (by decide)).spaced hblank hend

theorem lexes_label {label : String} (hl : Scanner.isLabel label.toList) :
    LexesOutside (('@' :: "prefix".toList) ++ ' ' :: (label.toList ++ [':']))
      [.tag "prefix", .prefixed label ""] := by
  have hlabel := LexesOutside.prefixed label.toList [] hl (by decide)
  have hline := (LexesOutside.tag "prefix" (by decide)).spaced (show Text.isBlank ' ' by decide) hlabel
  simpa using hline

theorem lexes_prefix {e : String × String} (hl : Scanner.isLabel e.1.toList)
    (hns : ∀ c ∈ e.2.toList, Scanner.isReferenceChar c) :
    LexesOutside (prefixChars e) (prefixTokens e) := by
  have hblank : Text.isBlank ' ' := by decide
  have hend := (LexesOutside.reference hns).spaced hblank (.mark .dot (by decide) (by decide))
  have hline := (lexes_label hl).spaced hblank hend
  simpa [prefixChars, prefixTokens, Mark.text] using hline

def documentTokens (t : Namespaces) (ts : List Triple) : List Token :=
  t.base.toList.flatMap baseTokens ++ (t.prefixes.entries.flatMap prefixTokens ++
    (groupBy Triple.subject ts).flatMap fun g =>
      statementTokens (subjectToken t g.1) (phrases t g.2))

theorem lexes_expressible (ht : t.Spellable) (h : ∀ x ∈ ts, Expressible x) {text : String}
    (htext : write t ts = .ok text) : LexesOutside text.toList (documentTokens t ts) := by
  rw [write_eq_ok fun x hx => (h x hx).check] at htext
  obtain rfl := Except.ok.inj htext
  have hblock : ∀ g ∈ groupBy Triple.subject ts, LexesOutside (blockChars t g.1 g.2)
      (statementTokens (subjectToken t g.1) (phrases t g.2)) := by
    intro g hg
    obtain ⟨x, hx, hs⟩ := exists_mem_of_mem_groupBy hg
    have hlegible : g.1.Legible :=
      hs ▸ Iri.legible_of_check (Triple.check_eq_ok_iff.1 (h x hx).check).1
    exact lexes_block ht hlegible fun y hy => h y (mem_of_mem_groupBy hg hy)
  have hblocks := LexesOutside.lines hblock LexesOutside.nil
  have hprefixes := LexesOutside.lines
    (fun e he => lexes_prefix (ht.label e he) (ht.legible _ (t.namespace_mem_references he)))
    hblocks
  have hdocument := LexesOutside.lines
    (fun b hb => lexes_base (ht.legible b (t.base_mem_references (Option.mem_toList.1 hb))))
    hprefixes
  rw [toList_write_text]
  simpa only [documentTokens, List.append_nil] using hdocument

theorem lexes_document (ht : t.Declarable) (h : ∀ x ∈ ts, Portable x) {text : String}
    (htext : write t ts = .ok text) : LexesOutside text.toList (documentTokens t ts) :=
  lexes_expressible ht.spellable (fun x hx => (h x hx).expressible) htext

theorem document_prefixes {entries : List (String × String)} {ls : Tokens}
    (hls : ls.map Located.token = entries.flatMap prefixTokens) (t : Namespaces) (rest : Tokens) :
    document t (ls ++ rest) =
      document { t with prefixes :=
        t.prefixes.insertAll (entries.map fun e => (e.1, (t.resolve e.2).text)) } rest := by
  induction entries generalizing ls t with
  | nil =>
    obtain rfl := List.map_eq_nil_iff.1 hls
    rfl
  | cons e entries ih =>
    obtain ⟨l₁, l₂, rfl, h₁, h₂⟩ := List.map_eq_append_iff.1 hls
    rw [List.append_assoc, document_prefix t h₁, ih h₂]
    rfl

theorem document_declarations {base : Option Iri} {entries : List (String × String)} {ls : Tokens}
    (hls : ls.map Located.token = base.toList.flatMap baseTokens ++ entries.flatMap prefixTokens)
    (rest : Tokens) :
    document .empty (ls ++ rest) =
      document ⟨Dictionary.ofList
        (entries.map fun e => (e.1, (Namespaces.resolve ⟨∅, base⟩ e.2).text)), base⟩ rest := by
  obtain ⟨l₁, l₂, rfl, h₁, h₂⟩ := List.map_eq_append_iff.1 hls
  have hbase : document .empty (l₁ ++ (l₂ ++ rest)) = document ⟨∅, base⟩ (l₂ ++ rest) := by
    cases base with
    | none =>
      obtain rfl := List.map_eq_nil_iff.1 h₁
      rfl
    | some base =>
      rw [document_base .empty (by simpa [baseTokens] using h₁)]
      rfl
  rw [List.append_assoc, hbase, document_prefixes h₂]
  rfl

theorem document_preamble {ls : Tokens}
    (hls : ls.map Located.token =
      t.base.toList.flatMap baseTokens ++ t.prefixes.entries.flatMap prefixTokens) (rest : Tokens) :
    document .empty (ls ++ rest) = document t.declared rest := by
  rw [document_declarations hls]
  congr 2
  exact Dictionary.insertAll_empty (t.prefixes.mapValues fun ns => (t.resolve ns).text)

theorem document_blocks {groups : List (Iri × List Triple)} (hne : ∀ g ∈ groups, g.2 ≠ [])
    (hsubject : ∀ g ∈ groups, ∀ x ∈ g.2, x.subject = g.1)
    (h : ∀ g ∈ groups, ∀ x ∈ g.2, x.check = .ok ()) {ls : Tokens}
    (hls : ls.map Located.token = groups.flatMap fun g =>
      statementTokens (subjectToken t g.1) (phrases t g.2)) :
    document t.declared ls = (t.declared, .ok ((groups.flatMap fun g =>
      (groupBy Triple.predicate g.2).flatMap Prod.snd).map (rereadTriple t))) := by
  induction groups generalizing ls with
  | nil =>
    obtain rfl := List.map_eq_nil_iff.1 hls
    rw [document]
    rfl
  | cons g groups ih =>
    obtain ⟨l₁, l₂, rfl, h₁, h₂⟩ := List.map_eq_append_iff.1 hls
    obtain ⟨hg, hne⟩ := List.forall_mem_cons.1 hne
    obtain ⟨hs, hsubject⟩ := List.forall_mem_cons.1 hsubject
    obtain ⟨hcheck, h⟩ := List.forall_mem_cons.1 h
    have hphrases : phrases t g.2 ≠ [] := by
      intro hnil
      have hgroups : groupBy Triple.predicate g.2 = [] := List.map_eq_nil_iff.1 hnil
      have hperm := perm_flatMap_groupBy Triple.predicate g.2
      rw [hgroups] at hperm
      exact hg hperm.symm.eq_nil
    rw [document_statement (names_subjectToken t g.1) hphrases (readable_phrases t hcheck) h₁,
      ih hne hsubject h h₂, triples_phrases t hs, List.flatMap_cons, List.map_append]
    rfl

theorem document_reread (hcheck : ∀ x ∈ ts, x.check = .ok ()) {ls : Tokens}
    (hls : ls.map Located.token = documentTokens t ts) :
    document .empty ls = (t.declared, .ok ((regroup ts).map (rereadTriple t))) := by
  rw [documentTokens, ← List.append_assoc] at hls
  obtain ⟨l₁, l₂, rfl, h₁, h₂⟩ := List.map_eq_append_iff.1 hls
  have hgrouped := grouped_groupBy Triple.subject ts
  rw [document_preamble h₁, document_blocks hgrouped.nonempty hgrouped.key_eq
    (fun g hg x hx => hcheck x (mem_of_mem_groupBy hg hx)) h₂]
  rfl

theorem document_written (ht : t.Declarable) (h : ∀ x ∈ ts, Portable x) {ls : Tokens}
    (hls : ls.map Located.token = documentTokens t ts) :
    document .empty ls = (t, .ok (regroup ts)) := by
  have hsame : ∀ x ∈ regroup ts, rereadTriple t x = id x := fun x hx =>
    rereadTriple_absolute ht (h x ((perm_regroup ts).mem_iff.1 hx)).absolute
  rw [document_reread (fun x hx => (h x hx).check) hls, ht.declared_eq,
    List.map_congr_left hsame, List.map_id]

/-- The text of any triples that can be written is read as the same triples, regrouped, and these
are written as the same text. -/
theorem read_write_regroup (ht : t.Declarable) (hcheck : ∀ x ∈ ts, x.check = .ok ())
    (habsolute : ∀ x ∈ ts, x.Absolute) (htag : ∀ x ∈ ts, x.object.TagLegible) :
    ∃ text, write t ts = .ok text ∧ read text = .ok (regroup ts) ∧ (regroup ts).Perm ts ∧
      write t (regroup ts) = .ok text := by
  have h : ∀ x ∈ ts, Portable x := fun x hx => ⟨hcheck x hx, habsolute x hx, htag x hx⟩
  have hwrite := write_eq_ok (t := t) hcheck
  have hlex := lexes_document ht h hwrite
  refine ⟨_, hwrite, ?_, perm_regroup ts, (write_regroup hcheck).trans hwrite⟩
  exact read_of_lexesOutside hlex fun ls hls => document_written ht h hls

def sampleTable : Namespaces :=
  ⟨Dictionary.ofList [("", "http://example.org/"), ("e.v", "http://example.org/events/"),
    ("xsd", Vocabulary.xsd)], some ⟨"http://example.org/"⟩⟩

def sampleTriples : List Triple :=
  let race : Iri := ⟨"http://example.org/events/1.b"⟩
  let runner : Iri := ⟨"http://example.org/events/"⟩
  [⟨race, Vocabulary.rdfType, .iri (Vocabulary.schemaName "SportsEvent")⟩,
    ⟨runner, Vocabulary.schemaName "name", .literal (.tagged "\"Ada\"\n" "en")⟩,
    ⟨race, Vocabulary.schemaName "distance", .literal (.typed "5" Vocabulary.xsdInteger)⟩]

theorem read_write_regroup_sample :
    (sampleTable.Declarable ∧ (∀ x ∈ sampleTriples, x.check = .ok ()) ∧
      (∀ x ∈ sampleTriples, x.Absolute) ∧ ∀ x ∈ sampleTriples, x.object.TagLegible) ∧
    ∃ text, write sampleTable sampleTriples = .ok text ∧ read text = .ok (regroup sampleTriples) ∧
      (regroup sampleTriples).Perm sampleTriples ∧
      write sampleTable (regroup sampleTriples) = .ok text := by
  have htable : sampleTable.Declarable := by
    have hlegible : ∀ e ∈ sampleTable.prefixes.entries, Iri.Legible ⟨e.2⟩ := by decide +kernel
    refine ⟨by decide +kernel, by decide +kernel, hlegible, ?_⟩
    rintro _ ⟨⟩
    exact ⟨show Iri.Legible ⟨"http://example.org/"⟩ by decide +kernel, by decide +kernel⟩
  have hcheck : ∀ x ∈ sampleTriples, x.check = .ok () := by
    simp only [sampleTriples, List.forall_mem_cons]
    exact ⟨rfl, rfl, rfl, nofun⟩
  have habsolute : ∀ x ∈ sampleTriples, x.Absolute := by
    simp only [sampleTriples, List.forall_mem_cons]
    refine ⟨⟨rfl, rfl, rfl⟩, ⟨rfl, rfl, nofun⟩, ⟨rfl, rfl, ?_⟩, nofun⟩
    rintro _ ⟨⟩
    rfl
  have htag : ∀ x ∈ sampleTriples, x.object.TagLegible := by
    simp only [sampleTriples, List.forall_mem_cons]
    refine ⟨trivial, ?_, nofun, nofun⟩
    rintro _ ⟨⟩
    decide +kernel
  exact ⟨⟨htable, hcheck, habsolute, htag⟩, read_write_regroup htable hcheck habsolute htag⟩

end LinkedRaces.Turtle
