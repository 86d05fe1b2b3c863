import LinkedRaces.Proofs.Results.Writer

/-!
Which fault a writer reports. Whatever the format, it is that of the first triple of a graph, or of
the first value of an answer, row by row, that fails the check; nothing else of an answer can fail,
and of a graph only a predicate without an element name, when all triples pass.
-/

namespace LinkedRaces

section Traversal

variable {ε α β γ : Type} {check : α → Except ε Unit} {xs ys : List α} {r : Except ε β}

inductive FirstFault (check : α → Except ε Unit) : List α → ε → Prop
  | here {x : α} {xs : List α} {e : ε} (fails : check x = .error e) : FirstFault check (x :: xs) e
  | later {x : α} {xs : List α} {e : ε} (passes : check x = .ok ()) (rest : FirstFault check xs e) :
    FirstFault check (x :: xs) e

/-- Succeeds exactly if all items pass the check, and else fails with the fault of the first. -/
structure FailsAtFirst (check : α → Except ε Unit) (xs : List α) (r : Except ε β) : Prop where
  ok_iff : (∃ b, r = .ok b) ↔ ∀ x ∈ xs, check x = .ok ()
  error_iff : ∀ e, r = .error e ↔ FirstFault check xs e

theorem bind_eq_error {f : β → Except ε γ} {e : ε} :
    (r >>= f) = .error e ↔ r = .error e ∨ ∃ b, r = .ok b ∧ f b = .error e := by
  cases r <;> simp [bind, Except.bind]

theorem forM_eq_ok_iff : forM xs check = .ok () ↔ ∀ x ∈ xs, check x = .ok () := by
  induction xs with
  | nil => exact iff_of_true rfl nofun
  | cons x xs ih =>
    rw [List.forM_cons, List.forall_mem_cons, ← ih]
    cases check x <;> simp [bind, Except.bind]

theorem forM_eq_error_iff {e : ε} : forM xs check = .error e ↔ FirstFault check xs e := by
  induction xs with
  | nil => exact iff_of_false nofun nofun
  | cons x xs ih =>
    rw [List.forM_cons]
    cases hx : check x with
    | error e' =>
      constructor
      · rintro ⟨⟩
        exact .here hx
      · rintro (⟨hfails⟩ | ⟨hpasses, -⟩)
        · exact hx.symm.trans hfails
        · cases hx.symm.trans hpasses
    | ok _ =>
      refine Iff.trans ih ⟨.later hx, ?_⟩
      rintro (⟨hfails⟩ | ⟨-, hrest⟩)
      · cases hx.symm.trans hfails
      · exact hrest

theorem failsAtFirst_iff : FailsAtFirst check xs r ↔ (r.map fun _ => ()) = forM xs check := by
  constructor
  · rintro ⟨hok, herror⟩
    cases r with
    | ok b => exact (forM_eq_ok_iff.2 (hok.1 ⟨b, rfl⟩)).symm
    | error e => exact (forM_eq_error_iff.2 ((herror e).1 rfl)).symm
  · intro h
    refine ⟨?_, fun e => ?_⟩
    · rw [← forM_eq_ok_iff, ← h]
      cases r <;> simp [Except.map]
    · rw [← forM_eq_error_iff, ← h]
      cases r <;> simp [Except.map]

namespace FailsAtFirst

theorem of_ok {b : β} (h : r = .ok b) : FailsAtFirst check [] r :=
  failsAtFirst_iff.2 (by rw [h]; rfl)

theorem bind (hr : FailsAtFirst check xs r) {f : β → Except ε γ}
    (hf : ∀ b, r = .ok b → FailsAtFirst check ys (f b)) :
    FailsAtFirst check (xs ++ ys) (r >>= f) := by
  rw [failsAtFirst_iff] at hr ⊢
  rw [List.forM_append, ← hr]
  cases r with
  | error e => rfl
  | ok b => exact failsAtFirst_iff.1 (hf b rfl)

theorem andThen (hr : FailsAtFirst check xs r) {f : β → Except ε γ}
    (hf : ∀ b, r = .ok b → ∃ c, f b = .ok c) : FailsAtFirst check xs (r >>= f) := by
  rw [← List.append_nil xs]
  refine hr.bind fun b hb => ?_
  obtain ⟨c, hc⟩ := hf b hb
  exact of_ok hc

theorem single (x : α) : FailsAtFirst check [x] (check x) := by
  rw [failsAtFirst_iff, List.forM_cons]
  cases check x <;> rfl

theorem mapM {items : γ → List α} {f : γ → Except ε β} {cs : List γ}
    (h : ∀ c ∈ cs, FailsAtFirst check (items c) (f c)) :
    FailsAtFirst check (cs.flatMap items) (cs.mapM f) := by
  induction cs with
  | nil => exact of_ok rfl
  | cons c cs ih =>
    obtain ⟨hc, hcs⟩ := List.forall_mem_cons.1 h
    rw [List.mapM_cons, List.flatMap_cons]
    exact hc.bind fun b _ => (ih hcs).andThen fun bs _ => ⟨b :: bs, rfl⟩

end FailsAtFirst

end Traversal

variable {t : Namespaces} {ts : List Triple}

theorem failsAtFirst_checkAll (ts : List Triple) : FailsAtFirst Triple.check ts (checkAll ts) := by
  induction ts with
  | nil => exact .of_ok rfl
  | cons x xs ih => exact (FailsAtFirst.single x).bind fun _ _ => ih

theorem Turtle.failsAtFirst_write : FailsAtFirst Triple.check ts (write t ts) :=
  (failsAtFirst_checkAll ts).andThen fun _ _ => ⟨_, rfl⟩

theorem NTriples.failsAtFirst_write : FailsAtFirst Triple.check ts (write ts) := by
  have hlines : FailsAtFirst Triple.check (ts.flatMap fun x => [x]) (ts.mapM line) :=
    .mapM fun x _ => (FailsAtFirst.single x).andThen fun _ _ => ⟨_, rfl⟩
  rw [List.flatMap_singleton'] at hlines
  exact hlines.andThen fun _ _ => ⟨_, rfl⟩

theorem JsonLd.failsAtFirst_write : FailsAtFirst Triple.check ts (write t ts) := by
  have hdocument : FailsAtFirst Triple.check ts (document t ts) := by
    refine (failsAtFirst_checkAll ts).andThen fun _ hcheck => ?_
    obtain ⟨_, hbody⟩ := (exists_write_iff (t := t)).2 (checkAll_eq_ok_iff.1 hcheck)
    obtain ⟨v, hv, -⟩ := exists_bind_eq_ok.1 ⟨_, hbody⟩
    obtain ⟨-, -, hrest⟩ := exists_bind_eq_ok.1 ⟨v, hv⟩
    exact hrest
  exact hdocument.andThen fun _ _ => ⟨_, rfl⟩

namespace RdfXml

variable {d : Declarations} {e : WriteError}

def Unnamed (xs : List Triple) (e : WriteError) : Prop := ∃ x ∈ xs, e = .unnamedPredicate x.predicate

theorem Unnamed.of_subset {xs ys : List Triple} (h : Unnamed xs e) (hsub : xs ⊆ ys) :
    Unnamed ys e := by
  obtain ⟨x, hx, he⟩ := h
  exact ⟨x, hsub hx, he⟩

theorem unnamed_property {x : Triple} (hx : x.check = .ok ()) (h : property t d x = .error e) :
    Unnamed [x] e := by
  have hobject := (Triple.check_eq_ok_iff.1 hx).2.2
  unfold property at h
  split at h
  next => exact ⟨x, List.mem_singleton_self x, (Except.error.inj h).symm⟩
  next =>
    split at h
    next => cases h
    next => cases h
    next name hvar => simp [hvar, Term.check] at hobject

theorem unnamed_properties {xs : List Triple} (hxs : ∀ x ∈ xs, x.check = .ok ())
    (h : properties t d xs = .error e) : Unnamed xs e := by
  induction xs generalizing d with
  | nil => cases h
  | cons x xs ih =>
    obtain ⟨hx, hxs⟩ := List.forall_mem_cons.1 hxs
    rcases bind_eq_error.1 h with h | ⟨⟨node, d₁⟩, -, h⟩
    · exact (unnamed_property hx h).of_subset (by simp)
    · rcases bind_eq_error.1 h with h | ⟨_, -, h⟩
      · exact (ih hxs h).of_subset (List.subset_cons_self x xs)
      · cases h

theorem splitClass_subset {xs rest : List Triple} {name : String} {d' : Declarations}
    (h : splitClass t d xs = some (name, d', rest)) : rest ⊆ xs := by
  induction xs generalizing rest with
  | nil => cases h
  | cons x xs ih =>
    rw [splitClass] at h
    split at h
    · cases h
      exact List.subset_cons_self x _
    · obtain ⟨⟨name₁, d₁, rest₁⟩, hsplit, heq⟩ := Option.map_eq_some_iff.1 h
      cases heq
      exact List.cons_subset_cons x (ih hsplit)

theorem unnamed_description {subject : Iri} {xs : List Triple} (hxs : ∀ x ∈ xs, x.check = .ok ())
    (h : description t d subject xs = .error e) : Unnamed xs e := by
  have hsub : ((splitClass t d xs).getD ("rdf:Description", d, xs)).2.2 ⊆ xs := by
    cases hsplit : splitClass t d xs with
    | none => exact List.Subset.refl xs
    | some found => exact splitClass_subset hsplit
  rcases bind_eq_error.1 h with h | ⟨_, -, h⟩
  · exact (unnamed_properties (fun x hx => hxs x (hsub hx)) h).of_subset hsub
  · cases h

theorem unnamed_descriptions {gs : List (Iri × List Triple)}
    (hgs : ∀ g ∈ gs, ∀ x ∈ g.2, x.check = .ok ()) (h : descriptions t d gs = .error e) :
    Unnamed (gs.flatMap Prod.snd) e := by
  induction gs generalizing d with
  | nil => cases h
  | cons g gs ih =>
    obtain ⟨hg, hgs⟩ := List.forall_mem_cons.1 hgs
    rw [List.flatMap_cons]
    rcases bind_eq_error.1 h with h | ⟨⟨node, d₁⟩, -, h⟩
    · exact (unnamed_description hg h).of_subset (List.subset_append_left _ _)
    · rcases bind_eq_error.1 h with h | ⟨_, -, h⟩
      · exact (ih hgs h).of_subset (List.subset_append_right _ _)
      · cases h

theorem write_eq_error_of_check (h : checkAll ts = .error e) : write t ts = .error e := by
  simp only [write, root, h, bind, Except.bind]

theorem unnamed_write (hts : ∀ x ∈ ts, x.check = .ok ()) (h : write t ts = .error e) :
    Unnamed ts e := by
  rcases bind_eq_error.1 h with hroot | ⟨_, -, h⟩
  · rcases bind_eq_error.1 hroot with hcheck | ⟨_, -, hnodes⟩
    · cases (checkAll_eq_ok_iff.2 hts).symm.trans hcheck
    · rcases bind_eq_error.1 hnodes with hnodes | ⟨_, -, h⟩
      · have hgroups : ∀ g ∈ groupBy Triple.subject ts, ∀ x ∈ g.2, x.check = .ok () :=
          fun g hg x hx => hts x (mem_of_mem_groupBy hg hx)
        exact (unnamed_descriptions hgroups hnodes).of_subset
          (perm_flatMap_groupBy Triple.subject ts).subset
      · cases h
  · cases h

end RdfXml

def boundTerms (vars : List String) (rows : List Binding) : List Term :=
  rows.flatMap fun row => vars.filterMap row.get?

namespace Results

variable {vars : List String} {row : Binding}

theorem failsAtFirst_termJson (c : Term) : FailsAtFirst Term.check [c] (termJson c) :=
  (FailsAtFirst.single c).andThen fun _ h =>
    (exists_bind_eq_ok.1 (exists_termJson h)).elim fun _ h => h.2

theorem failsAtFirst_termXml (c : Term) : FailsAtFirst Term.check [c] (termXml c) :=
  (FailsAtFirst.single c).andThen fun _ h =>
    (exists_bind_eq_ok.1 (exists_termXml h)).elim fun _ h => h.2

theorem failsAtFirst_cells {α : Type} {write : Term → Except WriteError α}
    (hwrite : ∀ c, FailsAtFirst Term.check [c] (write c)) :
    FailsAtFirst Term.check (vars.filterMap row.get?) (cells write vars row) := by
  have hterms : vars.filterMap row.get? =
      (vars.filterMap fun v => (row.get? v).map (v, ·)).flatMap fun c => [c.2] := by
    rw [← List.map_eq_flatMap, List.map_filterMap]
    simp [Function.comp_def]
  rw [hterms]
  exact .mapM fun c _ => (hwrite c.2).andThen fun v _ => ⟨(c.1, v), rfl⟩

theorem failsAtFirst_json (vars : List String) (rows : List Binding) :
    FailsAtFirst Term.check (boundTerms vars rows) (json (.solutions vars rows)) := by
  have hrows : FailsAtFirst Term.check (boundTerms vars rows) (rows.mapM (rowJson vars)) :=
    .mapM fun row _ => (failsAtFirst_cells failsAtFirst_termJson).andThen fun _ _ => ⟨_, rfl⟩
  exact hrows.andThen fun _ _ => ⟨_, rfl⟩

theorem failsAtFirst_xml (vars : List String) (rows : List Binding) :
    FailsAtFirst Term.check (boundTerms vars rows) (xml (.solutions vars rows)) := by
  have hrows : FailsAtFirst Term.check (boundTerms vars rows) (rows.mapM (rowXml vars)) :=
    .mapM fun row _ => (failsAtFirst_cells failsAtFirst_termXml).andThen fun _ _ => ⟨_, rfl⟩
  exact hrows.andThen fun _ _ => ⟨_, rfl⟩

theorem Delimited.failsAtFirst_cell (d : Delimited) (c : Option Term) :
    FailsAtFirst Term.check c.toList (d.cell c) := by
  cases c with
  | none => exact .of_ok rfl
  | some c => exact (FailsAtFirst.single c).andThen fun _ _ => ⟨_, rfl⟩

theorem Delimited.failsAtFirst_write (d : Delimited) (vars : List String) (rows : List Binding) :
    FailsAtFirst Term.check (boundTerms vars rows) (d.write (.solutions vars rows)) := by
  have hrow (row : Binding) : FailsAtFirst Term.check (vars.filterMap row.get?) (d.row vars row) := by
    rw [List.filterMap_eq_flatMap_toList]
    have hcells : FailsAtFirst Term.check (vars.flatMap fun v => (row.get? v).toList)
        (vars.mapM fun v => d.cell (row.get? v)) := .mapM fun v _ => d.failsAtFirst_cell _
    exact hcells.andThen fun _ _ => ⟨_, rfl⟩
  have hrows : FailsAtFirst Term.check (boundTerms vars rows) (rows.mapM (d.row vars)) :=
    .mapM fun row _ => hrow row
  exact hrows.andThen fun _ _ => ⟨_, rfl⟩

end Results

open Results in
theorem failsAtFirst_writeAnswer (vars : List String) (rows : List Binding)
    (format : ResultsFormat) :
    FailsAtFirst Term.check (boundTerms vars rows) (writeAnswer (.solutions vars rows) format) := by
  cases format with
  | json => exact (failsAtFirst_json vars rows).andThen fun _ _ => ⟨_, rfl⟩
  | xml => exact (failsAtFirst_xml vars rows).andThen fun _ _ => ⟨_, rfl⟩
  | csv => exact Delimited.csv.failsAtFirst_write vars rows
  | tsv => exact Delimited.tsv.failsAtFirst_write vars rows

/-- All writers accept the same graphs and answers, and refuse the others with the same fault. Only
RDF/XML refuses a graph for a reason of its own, if no triple of it fails the check. -/
theorem writers_agree :
    (∀ t ts,
      (∀ format, format ≠ .rdfXml → FailsAtFirst Triple.check ts (writeGraph t ts format)) ∧
      (∀ e, FirstFault Triple.check ts e → writeGraph t ts .rdfXml = .error e) ∧
      ∀ e, writeGraph t ts .rdfXml = .error e → FirstFault Triple.check ts e ∨
        (∀ x ∈ ts, x.check = .ok ()) ∧ ∃ x ∈ ts, e = .unnamedPredicate x.predicate) ∧
    (∀ vars rows format,
      FailsAtFirst Term.check (boundTerms vars rows) (writeAnswer (.solutions vars rows) format)) ∧
    ∀ value format, ∃ body, writeAnswer (.boolean value) format = .ok body := by
  refine ⟨fun t ts => ⟨fun format hformat => ?_, fun e he => ?_, fun e he => ?_⟩,
    failsAtFirst_writeAnswer, exists_writeAnswer_boolean⟩
  · cases format with
    | turtle => exact Turtle.failsAtFirst_write
    | rdfXml => exact absurd rfl hformat
    | jsonLd => exact JsonLd.failsAtFirst_write
    | nTriples => exact NTriples.failsAtFirst_write
  · exact RdfXml.write_eq_error_of_check (((failsAtFirst_checkAll ts).error_iff e).2 he)
  · cases hcheck : checkAll ts with
    | error e' =>
      obtain rfl : e' = e :=
        Except.error.inj ((RdfXml.write_eq_error_of_check hcheck).symm.trans he)
      exact .inl (((failsAtFirst_checkAll ts).error_iff e').1 hcheck)
    | ok _ =>
      have hts := checkAll_eq_ok_iff.1 hcheck
      exact .inr ⟨hts, RdfXml.unnamed_write hts he⟩

def spoiled : List Triple :=
  [⟨⟨"http://e/s"⟩, ⟨"http://e/10k"⟩, .literal (.plain "x")⟩,
    ⟨⟨"http://e/s"⟩, ⟨"http://e/p"⟩, .var "o"⟩,
    ⟨⟨"no IRI"⟩, ⟨"http://e/p"⟩, .literal (.plain "x")⟩]

def spoiledRows : List Binding :=
  [Dictionary.ofList [("a", .literal (.plain "x")), ("b", .iri ⟨"no IRI"⟩)],
    Dictionary.ofList [("a", .var "o")]]

theorem writers_agree_spoiled :
    (∀ format, writeGraph .wellKnown spoiled format = .error (.unboundVariable "o")) ∧
    (∀ format, format ≠ .rdfXml → ∃ body, writeGraph .wellKnown (spoiled.take 1) format = .ok body) ∧
    ∀ format, writeAnswer (.solutions ["a", "b"] spoiledRows) format =
      .error (.malformedIri "no IRI") := by
  obtain ⟨hgraphs, hanswers, -⟩ := writers_agree
  have hfault : FirstFault Triple.check spoiled (.unboundVariable "o") := .later rfl (.here rfl)
  have hfirst : ∀ x ∈ spoiled.take 1, x.check = .ok () := List.forall_mem_singleton.2 rfl
  have hcell : FirstFault Term.check (boundTerms ["a", "b"] spoiledRows) (.malformedIri "no IRI") :=
    .later rfl (.here rfl)
  refine ⟨fun format => ?_, fun format hformat => ?_, fun format => ?_⟩
  · by_cases hformat : format = .rdfXml
    · exact hformat ▸ (hgraphs .wellKnown spoiled).2.1 _ hfault
    · exact (((hgraphs .wellKnown spoiled).1 format hformat).error_iff _).2 hfault
  · exact ((hgraphs .wellKnown (spoiled.take 1)).1 format hformat).ok_iff.2 hfirst
  · exact ((hanswers ["a", "b"] spoiledRows format).error_iff _).2 hcell

end LinkedRaces
