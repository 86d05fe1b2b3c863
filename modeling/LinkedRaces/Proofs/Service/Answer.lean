import LinkedRaces.Proofs.Results.Writer
import LinkedRaces.Proofs.Service.Dump

/-!
When a query that was understood is answered. If the store can be written, so can every selection,
every yes or no and every description. A constructed graph can if the references of the query and
the prefixes of the service can; but the tokenizer lets a backslash or a control character stand in
a reference, which no writer does.
-/

namespace LinkedRaces

namespace Service

variable {s : Service} {text : String} {q : Query}

theorem parse_eq_ok_iff :
    s.parse text = .ok q ↔
      Query.parseWith s.settings.namespaces s.settings.maxLimit text = .ok q := by
  unfold parse
  cases Query.parseWith s.settings.namespaces s.settings.maxLimit text <;> simp

theorem exists_writeAnswer {a : Answer}
    (h : ∀ format, ∃ body, LinkedRaces.writeAnswer a format = .ok body) (format : ResultsFormat) :
    ∃ d, writeAnswer a format = .ok d := by
  obtain ⟨body, hbody⟩ := h format
  exact ⟨_, by rw [writeAnswer, hbody]⟩

/-- A query over data that can be written has an answer that can, in every format but RDF/XML. Only
a template may bring in other terms: its references and the prefixes have to be written as well. -/
theorem answer_spec (hstore : ∀ t ∈ s.store.triples, t.check = .ok ()) (hq : s.parse text = .ok q)
    (hconstruct : ∀ template, q.form = .construct template →
      s.settings.namespaces.NamesWritable ∧ Query.ReferencesWritable text) :
    (q.execute s.store).Checked ∧
      ∀ formats : AnswerFormats, formats.graph ≠ .rdfXml → ∃ d, s.answer text formats = .ok d := by
  have htemplate : q.form.TemplateWritten := by
    intro template hform
    obtain ⟨hnames, href⟩ := hconstruct template hform
    exact Query.written_parseWith hnames _ href q (parse_eq_ok_iff.1 hq) template hform
  have hchecked := Query.checked_execute hstore htemplate
  refine ⟨hchecked, fun formats hformats => ?_⟩
  simp only [answer, hq, bind, Except.bind]
  cases hexecute : q.execute s.store with
  | graph ts =>
    rw [hexecute] at hchecked
    exact (exists_writeGraph_iff hformats).2 hchecked
  | solutions vars rows =>
    rw [hexecute] at hchecked
    exact exists_writeAnswer (exists_writeAnswer_solutions hchecked) _
  | boolean value => exact exists_writeAnswer (exists_writeAnswer_boolean value) _

def oneRace : Service where
  settings := {}
  snapshot := .empty
  extra := [⟨⟨"http://example.org/run"⟩, ⟨"http://schema.org/name"⟩, .literal (.plain "Run")⟩]

def labels : String := "CONSTRUCT \x7b ?r <label> ?n \x7d WHERE \x7b ?r schema:name ?n \x7d"

def labelsQuery : Query where
  form := .construct [⟨.var "r", .iri ⟨"http://localhost:8080/label"⟩, .var "n"⟩]
  group := { Group.empty with
    required := [⟨.var "r", .iri ⟨"http://schema.org/name"⟩, .var "n"⟩] }
  modifiers := .ofLimit defaultLimit
  namespaces := Settings.namespaces {}

theorem answer_spec_labels :
    ((∀ t ∈ oneRace.store.triples, t.check = .ok ()) ∧ oneRace.parse labels = .ok labelsQuery ∧
      ∀ template, labelsQuery.form = .construct template →
        oneRace.settings.namespaces.NamesWritable ∧ Query.ReferencesWritable labels) ∧
    (labelsQuery.execute oneRace.store).Checked ∧
      ∃ d, oneRace.answer labels { graph := .nTriples } = .ok d := by
  have hstore : ∀ t ∈ oneRace.store.triples, t.check = .ok () := by decide +kernel
  have hq : oneRace.parse labels = .ok labelsQuery := by decide +kernel
  have hnames : oneRace.settings.namespaces.NamesWritable :=
    Settings.namesWritable_namespaces (by decide) (by decide) (by decide)
  have href : Query.ReferencesWritable labels := by decide +kernel
  have hconstruct : ∀ template, labelsQuery.form = .construct template →
      oneRace.settings.namespaces.NamesWritable ∧ Query.ReferencesWritable labels :=
    fun _ _ => ⟨hnames, href⟩
  obtain ⟨hchecked, hanswer⟩ := answer_spec hstore hq hconstruct
  exact ⟨⟨hstore, hq, hconstruct⟩, hchecked, hanswer { graph := .nTriples } (by decide)⟩

def backslash : String := "CONSTRUCT \x7b <http://e/a\\b> <http://e/p> 1 \x7d WHERE \x7b\x7d"

def backslashQuery : Query where
  form := .construct [⟨.iri ⟨"http://e/a\\b"⟩, .iri ⟨"http://e/p"⟩,
    .literal (.typed "1" Vocabulary.xsdInteger)⟩]
  group := .empty
  modifiers := .ofLimit defaultLimit
  namespaces := Settings.namespaces {}

theorem answer_backslash :
    (oneRace.settings.validate = .ok () ∧ (∀ t ∈ oneRace.store.triples, t.check = .ok ()) ∧
      oneRace.parse backslash = .ok backslashQuery) ∧
    ¬ (backslashQuery.execute oneRace.store).Checked ∧
    ∀ format ∈ [GraphFormat.turtle, .jsonLd, .nTriples],
      oneRace.answer backslash { graph := format } =
        .error ⟨.serializationFailed, "malformed IRI <http://e/a\\b>", none⟩ := by
  refine ⟨⟨by rfl, by decide +kernel, by decide +kernel⟩, fun hchecked => ?_, by decide +kernel⟩
  have hgraph : backslashQuery.execute oneRace.store =
      .graph [⟨⟨"http://e/a\\b"⟩, ⟨"http://e/p"⟩,
        .literal (.typed "1" Vocabulary.xsdInteger)⟩] := by
    decide +kernel
  rw [hgraph] at hchecked
  exact absurd (hchecked _ List.mem_cons_self) (by decide)

end Service

end LinkedRaces
