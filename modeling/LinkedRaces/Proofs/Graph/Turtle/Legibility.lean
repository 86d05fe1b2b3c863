import LinkedRaces.Proofs.Graph.Turtle.RoundTrip
import LinkedRaces.Proofs.Graph.Writer
import LinkedRaces.Proofs.Settings

/-!
Which tables make documents that can be read. The writer checks the triples and nothing else: the
base and the namespaces go into the preamble as they are. A reference with a character that ends it
leaves a bracket that opens nothing, and the reader stops there.
-/

namespace LinkedRaces

theorem Scanner.reference?_of_illegible {body : List Char} (hclosing : '>' ∉ body)
    (h : ¬ ∀ c ∈ body, isReferenceChar c) (rest : List Char) :
    reference? (body ++ rest) = none := by
  induction body with
  | nil => exact absurd (List.forall_mem_nil _) h
  | cons c body ih =>
    obtain ⟨hc, hbody⟩ := not_or.1 (mt List.mem_cons.2 hclosing)
    rw [List.cons_append, reference?, if_neg (Ne.symm hc)]
    by_cases hend : endsReference c
    · rw [if_pos hend]
    · have hrest : ¬ ∀ c ∈ body, isReferenceChar c := by
        intro hall
        refine h (List.forall_mem_cons.2 ⟨?_, hall⟩)
        simp [isReferenceChar, hend, Ne.symm hc]
      rw [if_neg hend, ih hbody hrest, Option.map_none]

theorem exists_kinds_bracket {cs : List Char} (h : Scanner.reference? cs = none) (x : Context) :
    ∃ m rest, Tokenizer.kinds x ('<' :: cs) =
      (Tokenizer.kinds (x.next (.mark m)) rest).map (.mark m :: ·) := by
  have heither : ∃ m rest, Scanner.either '=' .atMost .less cs = (.mark m, rest) := by
    cases cs with
    | nil => exact ⟨.less, [], rfl⟩
    | cons c cs =>
      rw [Scanner.either]
      split
      · exact ⟨.atMost, cs, rfl⟩
      · exact ⟨.less, c :: cs, rfl⟩
  obtain ⟨m, rest, heither⟩ := heither
  refine ⟨m, rest, Tokenizer.kinds_cons ?_⟩
  simp only [Scanner.tokenAfter, show Scanner.start '<' = .angle by decide, h, ite_self, heither]

namespace Turtle

open Reader

variable {t : Namespaces} {ts : List Triple}

/-- Text that can be read up to an illegible reference, where no document goes on with a mark. -/
theorem exists_read_error {text : String} {before rest : List Char} {tokens : List Token} {i : Iri}
    (hlex : LexesOutside before tokens)
    (htext : text.toList = before ++ ' ' :: '<' :: (i.text.toList ++ rest))
    (hclosing : '>' ∉ i.text.toList) (hi : ¬ i.Legible)
    (h : ∀ (ls : Tokens) (m : Mark) (more : List Token),
      ls.map Located.token = tokens ++ .mark m :: more → ∃ e, (document .empty ls).2 = .error e) :
    ∃ e, read text = .error e := by
  obtain ⟨m, rest', hbracket⟩ := exists_kinds_bracket
    (Scanner.reference?_of_illegible hclosing hi rest) (Context.start.through tokens)
  have hkinds : Tokenizer.kinds .start text.toList =
      (Tokenizer.kinds ((Context.start.through tokens).next (.mark m)) rest').map
        (tokens ++ .mark m :: ·) := by
    rw [htext, (hlex .start rfl).1 _ (separated_cons (by decide) _),
      Tokenizer.kinds_blank (by decide), hbracket]
    cases Tokenizer.kinds ((Context.start.through tokens).next (.mark m)) rest' <;> rfl
  cases htokens : tokenize text.toList with
  | error e => exact ⟨.malformed (.lexical e.fault) e.text, by simp only [read, readFrom, htokens]⟩
  | ok ls =>
    rw [Tokenizer.kinds_start_eq_ok.2 ⟨ls, htokens, rfl⟩] at hkinds
    cases hmore : Tokenizer.kinds ((Context.start.through tokens).next (.mark m)) rest' with
    | error e => simp [hmore, Except.map] at hkinds
    | ok more =>
      rw [hmore] at hkinds
      obtain ⟨e, he⟩ := h ls m more (Except.ok.inj hkinds)
      exact ⟨e, by simp only [read, readFrom, htokens, he]⟩

theorem document_base_mark (t : Namespaces) {m : Mark} {more : List Token} {ls : Tokens}
    (hls : ls.map Located.token = .tag "base" :: .mark m :: more) :
    ∃ e, (document t ls).2 = .error e := by
  obtain ⟨⟨_, x₁⟩, ls, rfl, rfl, h₁⟩ := List.map_eq_cons_iff.1 hls
  obtain ⟨⟨_, x₂⟩, ls, rfl, rfl, -⟩ := List.map_eq_cons_iff.1 h₁
  rw [document]
  exact ⟨_, rfl⟩

theorem document_prefix_mark (t : Namespaces) {label : String} {m : Mark} {more : List Token}
    {ls : Tokens}
    (hls : ls.map Located.token = .tag "prefix" :: .prefixed label "" :: .mark m :: more) :
    ∃ e, (document t ls).2 = .error e := by
  obtain ⟨⟨_, x₁⟩, ls, rfl, rfl, h₁⟩ := List.map_eq_cons_iff.1 hls
  obtain ⟨⟨_, x₂⟩, ls, rfl, rfl, h₂⟩ := List.map_eq_cons_iff.1 h₁
  obtain ⟨⟨_, x₃⟩, ls, rfl, rfl, -⟩ := List.map_eq_cons_iff.1 h₂
  rw [document]
  exact ⟨_, rfl⟩

def declarationChars (base : Option Iri) (entries : List (String × String)) : List Char :=
  (base.toList.flatMap fun b => baseChars b ++ ['\n']) ++
    entries.flatMap fun e => prefixChars e ++ ['\n']

theorem exists_read_error_of_base {base : Iri} (hclosing : '>' ∉ base.text.toList)
    (hi : ¬ base.Legible) {text : String} {entries : List (String × String)} {rest : List Char}
    (htext : text.toList = declarationChars (some base) entries ++ rest) :
    ∃ e, read text = .error e := by
  have hbracket : text.toList = ('@' :: "base".toList) ++ ' ' :: '<' :: (base.text.toList ++
      '>' :: ' ' :: '.' :: '\n' :: ((entries.flatMap fun e => prefixChars e ++ ['\n']) ++ rest)) := by
    rw [htext]
    simp [declarationChars, baseChars, Iri.display]
  exact exists_read_error (LexesOutside.tag "base" (by decide)) hbracket hclosing hi
    fun ls m more hls => document_base_mark _ hls

theorem exists_read_error_of_namespace {base : Option Iri} {before after : List (String × String)}
    {label ns : String} (hlabel : Scanner.isLabel label.toList) (hclosing : '>' ∉ ns.toList)
    (hi : ¬ Iri.Legible ⟨ns⟩) (hbase : ∀ b, base = some b → b.Legible)
    (hbefore : ∀ e ∈ before, Scanner.isLabel e.1.toList ∧ Iri.Legible ⟨e.2⟩)
    {text : String} {rest : List Char}
    (htext : text.toList = declarationChars base (before ++ (label, ns) :: after) ++ rest) :
    ∃ e, read text = .error e := by
  have hprefixes := LexesOutside.lines
    (fun e he => lexes_prefix (hbefore e he).1 (hbefore e he).2) (lexes_label hlabel)
  have hlex := LexesOutside.lines
    (fun b hb => lexes_base (hbase b (Option.mem_toList.1 hb))) hprefixes
  have hbracket : text.toList = ((base.toList.flatMap fun b => baseChars b ++ ['\n']) ++
      ((before.flatMap fun e => prefixChars e ++ ['\n']) ++
        (('@' :: "prefix".toList) ++ ' ' :: (label.toList ++ [':'])))) ++ ' ' :: '<' :: (ns.toList ++
      '>' :: ' ' :: '.' :: '\n' :: ((after.flatMap fun e => prefixChars e ++ ['\n']) ++ rest)) := by
    rw [htext]
    simp [declarationChars, prefixChars]
  refine exists_read_error (i := ⟨ns⟩) hlex hbracket hclosing hi fun ls m more hls => ?_
  -- the declarations before are whole, and the keyword and the label belong to the bracket
  rw [← List.append_assoc, List.append_assoc] at hls
  obtain ⟨l₁, l₂, rfl, h₁, h₂⟩ := List.map_eq_append_iff.1 hls
  rw [document_declarations h₁]
  exact document_prefix_mark _ h₂

theorem exists_first_illegible {entries : List (String × String)} {e : String × String}
    (he : e ∈ entries) (hi : ¬ Iri.Legible ⟨e.2⟩) :
    ∃ before label ns after, entries = before ++ (label, ns) :: after ∧ ¬ Iri.Legible ⟨ns⟩ ∧
      ∀ e ∈ before, Iri.Legible ⟨e.2⟩ := by
  have hfound : (entries.find? fun e => decide (¬ Iri.Legible ⟨e.2⟩)).isSome :=
    List.find?_isSome.2 ⟨e, he, decide_eq_true hi⟩
  obtain ⟨first, hfirst⟩ := Option.isSome_iff_exists.1 hfound
  obtain ⟨hns, before, after, hentries, hbefore⟩ := List.find?_eq_some_iff_append.1 hfirst
  refine ⟨before, first.1, first.2, after, hentries, of_decide_eq_true hns, fun e he => ?_⟩
  simpa using hbefore e he

theorem exists_read_error_of_illegible
    (hlabel : ∀ e ∈ t.prefixes.entries, Scanner.isLabel e.1.toList)
    (hclosing : ∀ i ∈ t.references, '>' ∉ i.text.toList) (hi : ∃ i ∈ t.references, ¬ i.Legible)
    {text : String} (htext : write t ts = .ok text) : ∃ e, read text = .error e := by
  rw [write_eq_ok (exists_write_iff.1 ⟨text, htext⟩)] at htext
  obtain rfl := Except.ok.inj htext
  have hdocument := toList_write_text t ts
  rw [← List.append_assoc] at hdocument
  by_cases hbase : ∀ b, t.base = some b → b.Legible
  · obtain ⟨i, hmem, hi⟩ := hi
    have hprefix : ∃ e ∈ t.prefixes.entries, (⟨e.2⟩ : Iri) = i := by
      rcases List.mem_append.1 hmem with hmem | hmem
      · exact absurd (hbase i (Option.mem_toList.1 hmem)) hi
      · exact List.mem_map.1 hmem
    obtain ⟨e, he, rfl⟩ := hprefix
    obtain ⟨before, label, ns, after, hentries, hns, hbefore⟩ := exists_first_illegible he hi
    have hmem : (label, ns) ∈ t.prefixes.entries := by simp [hentries]
    have hsub : ∀ e ∈ before, e ∈ t.prefixes.entries := fun e he => by simp [hentries, he]
    rw [hentries] at hdocument
    exact exists_read_error_of_namespace (hlabel _ hmem)
      (hclosing ⟨ns⟩ (t.namespace_mem_references hmem)) hns hbase
      (fun e he => ⟨hlabel e (hsub e he), hbefore e he⟩) hdocument
  · simp only [not_forall] at hbase
    obtain ⟨base, hbase, hillegible⟩ := hbase
    rw [hbase] at hdocument
    exact exists_read_error_of_base (hclosing base (t.base_mem_references hbase)) hillegible
      hdocument

theorem read_write_legible (ht : t.Spellable) (htag : ∀ x ∈ ts, x.object.TagLegible) {text : String}
    (htext : write t ts = .ok text) : read text = .ok ((regroup ts).map (rereadTriple t)) := by
  have hcheck := exists_write_iff.1 ⟨text, htext⟩
  have h : ∀ x ∈ ts, Expressible x := fun x hx => ⟨hcheck x hx, htag x hx⟩
  exact read_of_lexesOutside (lexes_expressible ht h htext) fun ls hls =>
    document_reread hcheck hls

theorem legible_of_read (hlabel : ∀ e ∈ t.prefixes.entries, Scanner.isLabel e.1.toList)
    (hclosing : ∀ i ∈ t.references, '>' ∉ i.text.toList) {text : String}
    (htext : write t ts = .ok text) {us : List Triple} (hus : read text = .ok us) :
    ∀ i ∈ t.references, i.Legible := by
  by_contra hi
  simp only [not_forall, exists_prop] at hi
  obtain ⟨e, he⟩ := exists_read_error_of_illegible hlabel hclosing hi htext
  cases hus.symm.trans he

/-- The writer looks at the triples alone. If the references of the preamble are legible, then its
document is read: the triples come back, each IRI as what its name stands for under the declared
table. Otherwise the document cannot be read, unless a reference closes its bracket itself. -/
theorem readable_iff_legible (hlabel : ∀ e ∈ t.prefixes.entries, Scanner.isLabel e.1.toList)
    (htag : ∀ x ∈ ts, x.object.TagLegible) :
    ((∃ text, write t ts = .ok text) ↔ ∀ x ∈ ts, x.check = .ok ()) ∧
    ∀ text, write t ts = .ok text →
      ((∀ i ∈ t.references, i.Legible) →
        read text = .ok ((regroup ts).map (rereadTriple t))) ∧
      ((∀ i ∈ t.references, '>' ∉ i.text.toList) →
        ((∃ us, read text = .ok us) ↔ ∀ i ∈ t.references, i.Legible)) := by
  refine ⟨exists_write_iff, fun text htext => ?_⟩
  have hread (hlegible : ∀ i ∈ t.references, i.Legible) :
      read text = .ok ((regroup ts).map (rereadTriple t)) :=
    read_write_legible ⟨hlabel, hlegible⟩ htag htext
  exact ⟨hread, fun hclosing => ⟨fun ⟨_, hus⟩ => legible_of_read hlabel hclosing htext hus,
    fun hlegible => ⟨_, hread hlegible⟩⟩⟩

def relativeTable : Namespaces :=
  ⟨Dictionary.ofList [("ex", "vocab#")], some ⟨"http://example.org/"⟩⟩

def blankSettings : Settings := { prefixes := [("ex", "http://example.org/my ns#")] }

theorem readable_iff_legible_tables :
    let run (race : String) : Triple :=
      ⟨⟨race⟩, ⟨"http://example.org/name"⟩, .literal (.tagged "Lauf" "de")⟩
    (∃ text, write relativeTable [run "1/a:b"] = .ok text ∧
      read text = .ok [run "http://example.org/1/a:b"]) ∧
    blankSettings.validate = .ok () ∧
      ∃ text, write blankSettings.namespaces [run "http://example.org/1"] = .ok text ∧
        ¬ ∃ us, read text = .ok us := by
  intro run
  have htag (race : String) : ∀ x ∈ [run race], x.object.TagLegible := by
    rw [List.forall_mem_singleton]
    rintro _ ⟨⟩
    decide +kernel
  have hvalid : blankSettings.validate = .ok () :=
    Settings.validate_eq_ok_iff.2 (by decide +kernel)
  obtain ⟨hwrite, hread⟩ := readable_iff_legible (t := relativeTable) (by decide +kernel)
    (htag "1/a:b")
  obtain ⟨text, htext⟩ := hwrite.2 (by rw [List.forall_mem_singleton]; decide +kernel)
  obtain ⟨hwrite', hread'⟩ := readable_iff_legible (Settings.isLabel_namespaces hvalid)
    (htag "http://example.org/1")
  obtain ⟨text', htext'⟩ := hwrite'.2 (by rw [List.forall_mem_singleton]; decide +kernel)
  refine ⟨⟨text, htext, ?_⟩, hvalid, text', htext', fun hreadable => ?_⟩
  · rw [(hread text htext).1 (by decide +kernel)]
    decide +kernel
  · have hlegible := ((hread' text' htext').2 (by decide +kernel)).1 hreadable
    exact absurd hlegible (by decide +kernel)

/-- Neither a namespace nor the base is checked, and neither is a language tag. -/
theorem unread_illegible :
    let blankTable : Namespaces := Namespaces.empty.insert "ex" "http://example.org/my ns#"
    let blankBase : Namespaces := Namespaces.empty.setBase ⟨"http://example.org/a b/"⟩
    let tagged : Triple := ⟨⟨"http://e/s"⟩, ⟨"http://e/p"⟩, .literal (.tagged "x" "en us")⟩
    (write blankTable [] = .ok "@prefix ex: <http://example.org/my ns#> .\n" ∧
      read "@prefix ex: <http://example.org/my ns#> .\n" =
        .error (.malformed .reference "<http://example.org/my ns#> .\n".toList)) ∧
    (write blankBase [] = .ok "@base <http://example.org/a b/> .\n" ∧
      read "@base <http://example.org/a b/> .\n" =
        .error (.malformed .reference "<http://example.org/a b/> .\n".toList)) ∧
    write .empty [tagged] = .ok "\n<http://e/s> <http://e/p> \"x\"@en us .\n" ∧
      read "\n<http://e/s> <http://e/p> \"x\"@en us .\n" =
        .error (.malformed .dot "us .\n".toList) := by
  decide +kernel

end Turtle

end LinkedRaces
