import LinkedRaces.Proofs.Graph.Turtle.Legibility
import LinkedRaces.Proofs.Rdf.Directory
import LinkedRaces.Service.Http

/-!
Where the description says that the endpoint is. All entities are named below the base with a slash
at its end, and so is what a relative reference of the description stands for. The endpoint itself
is resolved against the base as it is set: without a slash at the end, the last segment is lost.
-/

namespace LinkedRaces

namespace Turtle

variable {t : Namespaces} {base i : Iri}

theorem exists_reread_eq (ht : t.base = some base) (hslash : base.text.toList.getLast? = some '/')
    (hscheme : "://".toList <:+: base.text.toList) (hi : '/' ∈ i.text.toList)
    (hfragment : '#' ∉ i.text.toList) :
    ∃ before, (reread t i).text.toList = before ++ i.text.toList ∧ before.count '/' ≠ 1 := by
  unfold reread
  split
  next a ha =>
    obtain ⟨-, hname, hlocal⟩ := Namespaces.abbreviate?_spec ha
    have hns : '/' ∈ a.ns.toList := by
      rw [hname, List.mem_append] at hi
      exact hi.resolve_right (Namespaces.notMem_of_isLocalName hlocal (by decide))
    have hnsfragment : '#' ∉ a.ns.toList := by
      rw [hname, List.mem_append, not_or] at hfragment
      exact hfragment.1
    obtain ⟨before, hresolve, hcount⟩ :=
      Iri.exists_resolveChars_eq hslash hscheme (List.ne_nil_of_mem hns) hnsfragment
    refine ⟨before, ?_, hcount⟩
    simp [Namespaces.resolve, ht, hresolve, hname]
  next =>
    obtain ⟨before, hresolve, hcount⟩ :=
      Iri.exists_resolveChars_eq hslash hscheme (List.ne_nil_of_mem hi) hfragment
    exact ⟨before, by simpa [Namespaces.resolve, ht] using hresolve, hcount⟩

theorem reread_of_hasScheme (t : Namespaces) (hi : i.Absolute) : reread t i = i := by
  unfold reread
  split
  next a ha =>
    obtain ⟨-, hname, hlocal⟩ := Namespaces.abbreviate?_spec ha
    have hns : Iri.Absolute ⟨a.ns⟩ := by
      rw [Iri.Absolute, hname] at hi
      exact Iri.hasScheme_of_append hi
        (Namespaces.notMem_of_isLocalName hlocal (by decide))
    rw [Namespaces.resolve_absolute (i := ⟨a.ns⟩) hns, Namespaces.text_abbreviation ha]
  next => exact Namespaces.resolve_absolute hi t

theorem subject_reread {s : Iri} {ts us : List Triple} (hne : ts ≠ [])
    (hs : ∀ x ∈ ts, x.subject = s) (hus : us = (regroup ts).map (rereadTriple t)) :
    us ≠ [] ∧ ∀ x ∈ us, x.subject = rereadSubject t s := by
  have hperm := perm_regroup ts
  subst hus
  refine ⟨fun hnil => ?_, ?_⟩
  · rw [List.map_eq_nil_iff.1 hnil] at hperm
    exact hne hperm.nil_eq.symm
  · rw [List.forall_mem_map]
    intro x hx
    rw [rereadTriple, hs x (hperm.mem_iff.1 hx)]

end Turtle

namespace Mapping

variable {base : String}

theorem getLast?_normalBase (hfragment : '#' ∉ base.toList) :
    (normalBase base).toList.getLast? = some '/' := by
  unfold normalBase
  split
  next h => exact h
  next h => exact absurd (List.mem_of_getLast? h) hfragment
  next => simp

theorem normalBase_of_slash (h : base.toList.getLast? = some '/') :
    normalBase base = base := by
  simp only [normalBase, h]

theorem normalBase_of_not_slash (h : base.toList.getLast? ≠ some '/')
    (hfragment : '#' ∉ base.toList) : normalBase base = base ++ "/" := by
  unfold normalBase
  split
  next hslash => exact absurd hslash h
  next hhash => exact absurd (List.mem_of_getLast? hhash) hfragment
  next => rfl

end Mapping

structure Http.Request.AsksDescription (r : Http.Request) : Prop where
  method : r.method = "GET"
  path : r.path = "/sparql"
  query : ∃ fields, Form.known ["query", "format"] r.query = .ok fields ∧
    fields.lookup "query" = none

namespace Service

open Turtle

variable {s : Service}

def descriptionTable (s : Service) : Namespaces :=
  (s.settings.namespaces.insert "sd" Vocabulary.serviceDescription).insert "formats"
    formatNamespace

theorem description_eq (s : Service) :
    s.description = writeGraph s.descriptionTable (endpointTriples s.endpoint) .turtle := rfl

theorem descriptionTable_base (s : Service) :
    s.descriptionTable.base = some ⟨Mapping.normalBase s.settings.baseIri⟩ := rfl

def fixedNamespaces : List (String × String) :=
  ("formats", formatNamespace) :: ("sd", Vocabulary.serviceDescription) :: wellKnownNamespaces

theorem writable_fixedNamespaces :
    ∀ e ∈ fixedNamespaces, ':' ∈ e.2.toList ∧ Writable e.2.toList := by
  decide

theorem check_fixedNamespaces {e : String × String} (he : e ∈ fixedNamespaces) {name : String}
    (hname : Writable name.toList) : (⟨e.2 ++ name⟩ : Iri).check = .ok () := by
  obtain ⟨hcolon, hwritable⟩ := writable_fixedNamespaces e he
  refine (Iri.check_iff_writable (by simp [hcolon])).2 ?_
  rw [String.toList_append, writable_append]
  exact ⟨hwritable, hname⟩

theorem mem_descriptionTable {e : String × String}
    (he : e ∈ s.descriptionTable.prefixes.entries) :
    e ∈ fixedNamespaces ∨ e ∈ s.settings.prefixes := by
  rcases Dictionary.mem_insertEntry he with rfl | he
  · exact .inl List.mem_cons_self
  rcases Dictionary.mem_insertEntry he with rfl | he
  · exact .inl (List.mem_cons_of_mem _ List.mem_cons_self)
  rcases Dictionary.mem_insertAll he with he | he
  · exact .inl (List.mem_cons_of_mem _ (List.mem_cons_of_mem _ (Dictionary.mem_ofList he)))
  · exact .inr he

theorem isLabel_descriptionTable (h : s.settings.validate = .ok ()) :
    ∀ e ∈ s.descriptionTable.prefixes.entries, Scanner.isLabel e.1.toList := by
  have hfixed : ∀ e ∈ fixedNamespaces, Scanner.isLabel e.1.toList := by decide
  intro e he
  rcases mem_descriptionTable he with he | he
  · exact hfixed e he
  · exact Namespaces.isLabel_of_isPrefixLabel ((Settings.validate_eq_ok_iff.1 h).2.2 e he)

theorem forall_references {P : List Char → Prop} (h : ∀ cs, Writable cs → P cs)
    (hbase : Writable s.settings.baseIri.toList)
    (hprefixes : ∀ e ∈ s.settings.prefixes, P e.2.toList) :
    ∀ i ∈ s.descriptionTable.references, P i.text.toList := by
  intro i hi
  rcases List.mem_append.1 hi with hi | hi
  · obtain rfl := List.mem_singleton.1 hi
    exact h _ (Mapping.writable_normalBase.2 hbase)
  · obtain ⟨e, he, rfl⟩ := List.mem_map.1 hi
    rcases mem_descriptionTable he with he | he
    · exact h _ (writable_fixedNamespaces e he).2
    · exact hprefixes e he

theorem not_closing_references (hbase : Writable s.settings.baseIri.toList)
    (hprefixes : ∀ e ∈ s.settings.prefixes, '>' ∉ e.2.toList) :
    ∀ i ∈ s.descriptionTable.references, '>' ∉ i.text.toList :=
  forall_references (P := fun cs => '>' ∉ cs)
    (fun _ h hmem => absurd (h '>' hmem) (by decide)) hbase hprefixes

theorem legible_references (hbase : Writable s.settings.baseIri.toList)
    (hprefixes : ∀ e ∈ s.settings.prefixes, Iri.Legible ⟨e.2⟩) :
    ∀ i ∈ s.descriptionTable.references, i.Legible :=
  forall_references (P := fun cs => ∀ c ∈ cs, Scanner.isReferenceChar c)
    (fun _ h c hc => isReferenceChar_of_writable (h c hc)) hbase hprefixes

theorem endpointTriples_ne_nil (endpoint : Iri) : endpointTriples endpoint ≠ [] := by
  simp [endpointTriples]

theorem subject_endpointTriples {endpoint : Iri} :
    ∀ x ∈ endpointTriples endpoint, x.subject = endpoint := by
  simp [endpointTriples, describedFormats]

theorem check_serviceName {name : String} (h : Writable name.toList) :
    (Vocabulary.serviceName name).check = .ok () :=
  check_fixedNamespaces (List.mem_cons_of_mem _ List.mem_cons_self) h

theorem check_endpointTriples {endpoint : Iri} (h : endpoint.check = .ok ()) :
    ∀ x ∈ endpointTriples endpoint, x.check = .ok () := by
  have hwords : ∀ name ∈ ["Service", "endpoint", "supportedLanguage", "SPARQL11Query",
      "resultFormat"], Writable name.toList := by
    decide
  have hformats : ∀ name ∈ describedFormats, Writable name.toList := by decide
  have hservice := fun name hname => check_serviceName (hwords name hname)
  have hformat := fun name hname => check_fixedNamespaces List.mem_cons_self (hformats name hname)
  have hobject (i : Iri) : (Term.iri i).check = i.check := rfl
  simp only [List.forall_mem_cons] at hservice
  simp only [endpointTriples, List.forall_mem_append, List.forall_mem_cons, List.forall_mem_map,
    Triple.check_eq_ok_iff, hobject, Mapping.check_rdfType, h, hservice]
  simpa using hformat

theorem tagLegible_endpointTriples (endpoint : Iri) :
    ∀ x ∈ endpointTriples endpoint, x.object.TagLegible := by
  simp [endpointTriples, Term.TagLegible]

theorem endpoint_text (s : Service) : s.endpoint.text.toList =
    Iri.directory s.settings.baseIri.toList ++ "sparql".toList := by
  rw [endpoint, Iri.toList_resolve]
  rfl

theorem check_endpoint (h : "://".toList <:+: s.settings.baseIri.toList)
    (hbase : Writable s.settings.baseIri.toList) : s.endpoint.check = .ok () := by
  have hcolon : ':' ∈ s.endpoint.text.toList := by
    rw [endpoint_text]
    exact List.mem_append_left _ (Iri.colon_mem_directory h)
  rw [Iri.check_iff_writable hcolon, endpoint_text, writable_append]
  exact ⟨hbase.of_subset (Iri.directory_subset _), by decide⟩

theorem rereadSubject_of_slash (h : s.settings.baseIri.toList.getLast? = some '/') :
    rereadSubject s.descriptionTable s.endpoint = s.endpoint := by
  have hrelative : s.endpoint.relativeTo? s.settings.baseIri = some "sparql" := by
    rw [Iri.relativeTo?, endpoint_text, Iri.directory_of_slash h, Iri.relativeChars?, if_pos h,
      Text.dropBeginning?_eq_some_iff.2 rfl]
    rfl
  rw [rereadSubject, descriptionTable_base, Mapping.normalBase_of_slash h, Option.bind_some,
    hrelative]
  simp only [Namespaces.resolve, descriptionTable_base, Mapping.normalBase_of_slash h]
  rfl

theorem rereadSubject_of_not_slash (h : s.settings.baseIri.toList.getLast? ≠ some '/')
    (hfragment : '#' ∉ s.settings.baseIri.toList) :
    rereadSubject s.descriptionTable s.endpoint = reread s.descriptionTable s.endpoint := by
  rw [rereadSubject, descriptionTable_base, Option.bind_some]
  cases hrelative : s.endpoint.relativeTo? (Mapping.normalBase s.settings.baseIri) with
  | none => rfl
  | some relative =>
    have hcount := congrArg (List.count '/') (toList_of_relativeTo? hrelative)
    rw [endpoint_text, Mapping.normalBase_of_not_slash h hfragment] at hcount
    simp [Iri.count_slash_directory] at hcount

theorem rereadSubject_eq_iff (hscheme : "://".toList <:+: s.settings.baseIri.toList)
    (hfragment : '#' ∉ s.settings.baseIri.toList) :
    rereadSubject s.descriptionTable s.endpoint =
        ⟨Mapping.normalBase s.settings.baseIri ++ "sparql"⟩ ↔
      s.settings.baseIri.toList.getLast? = some '/' := by
  by_cases h : s.settings.baseIri.toList.getLast? = some '/'
  · refine iff_of_true ?_ h
    rw [rereadSubject_of_slash h, Iri.mk.injEq, ← String.toList_inj, endpoint_text,
      Iri.directory_of_slash h, Mapping.normalBase_of_slash h, String.toList_append]
  · refine iff_of_false (fun heq => ?_) h
    have hslash := Iri.two_le_count_slash hscheme
    have hendpoint : '/' ∈ s.endpoint.text.toList := by
      rw [endpoint_text, ← List.count_pos_iff, List.count_append, Iri.count_slash_directory]
      omega
    have hplain : '#' ∉ s.endpoint.text.toList := by
      rw [endpoint_text, List.mem_append, not_or]
      exact ⟨fun hmem => hfragment (Iri.directory_subset _ hmem), by decide⟩
    have hbase : "://".toList <:+: (Mapping.normalBase s.settings.baseIri).toList :=
      hscheme.trans (Mapping.prefix_normalBase _).isInfix
    obtain ⟨before, hbefore, hcount⟩ := exists_reread_eq (descriptionTable_base s)
      (Mapping.getLast?_normalBase hfragment) hbase hendpoint hplain
    -- the slash that the base of the table has more is not in front of the endpoint
    rw [← rereadSubject_of_not_slash h hfragment, heq, endpoint_text,
      Mapping.normalBase_of_not_slash h hfragment] at hbefore
    have hslashes := congrArg (List.count '/') hbefore
    simp [Iri.count_slash_directory] at hslashes
    omega

theorem rereadSubject_of_hasScheme (h : Iri.hasScheme s.settings.baseIri.toList)
    (hfragment : '#' ∉ s.settings.baseIri.toList) :
    rereadSubject s.descriptionTable s.endpoint = s.endpoint := by
  by_cases hslash : s.settings.baseIri.toList.getLast? = some '/'
  · exact rereadSubject_of_slash hslash
  · have hendpoint : s.endpoint.Absolute := by
      rw [Iri.Absolute, endpoint_text]
      exact Iri.hasScheme_append (Iri.hasScheme_directory h) _
    rw [rereadSubject_of_not_slash hslash hfragment, reread_of_hasScheme _ hendpoint]

theorem scheme_of_validate (h : s.settings.validate = .ok ()) :
    "://".toList <:+: s.settings.baseIri.toList :=
  Text.occursIn_iff_isInfix.1 (Settings.validate_eq_ok_iff.1 h).1

theorem writable_of_check (h : s.settings.validate = .ok ())
    (hbase : Iri.check ⟨s.settings.baseIri⟩ = .ok ()) : Writable s.settings.baseIri.toList := by
  have hcolon : ':' ∈ s.settings.baseIri.toList := (scheme_of_validate h).subset (by decide)
  exact (Iri.check_iff_writable (i := ⟨s.settings.baseIri⟩) hcolon).1 hbase

theorem route_description {r : Http.Request} (hr : r.AsksDescription) :
    s.route r = respond (refused s.description) := by
  obtain ⟨hmethod, hpath, fields, hfields, hnone⟩ := hr
  have hroute : Route.ofPath? r.path = some .query := by
    rw [hpath]
    rfl
  have hquery : s.getQuery r = refused s.description := by
    simp only [getQuery, Http.Request.parameters, hfields, bind, Except.bind, hnone]
  rw [route, hroute]
  dsimp only
  rw [if_pos hmethod, get, hquery]

theorem handle_of_get {r : Http.Request} (hr : r.method = "GET") :
    ∃ more, s.handle r = { s.route r with headers := (s.route r).headers ++ more } := by
  by_cases hcors : s.settings.corsEnabled
  · exact ⟨[allowOrigin], by simp [handle, hcors, hr]⟩
  · exact ⟨[], by simp [handle, hcors]⟩

theorem exists_description (hvalid : s.settings.validate = .ok ())
    (hbase : Iri.check ⟨s.settings.baseIri⟩ = .ok ()) :
    ∃ body, s.description = .ok ⟨GraphFormat.turtle.contentType, body⟩ ∧
      ((∀ i ∈ s.descriptionTable.references, i.Legible) →
        Turtle.read body =
          .ok ((regroup (endpointTriples s.endpoint)).map (rereadTriple s.descriptionTable))) ∧
      ((∀ i ∈ s.descriptionTable.references, '>' ∉ i.text.toList) →
        (∃ us, Turtle.read body = .ok us) → ∀ i ∈ s.descriptionTable.references, i.Legible) := by
  have hscheme := scheme_of_validate hvalid
  have hwritable := writable_of_check hvalid hbase
  have hlabel := isLabel_descriptionTable hvalid
  have hcheck := check_endpointTriples (check_endpoint hscheme hwritable)
  obtain ⟨body, hbody⟩ := exists_write_iff (t := s.descriptionTable).2 hcheck
  refine ⟨body, ?_, fun hlegible => ?_, fun hclosing ⟨us, hus⟩ => ?_⟩
  · simp only [description_eq, writeGraph, LinkedRaces.writeGraph, hbody]
  · exact read_write_legible ⟨hlabel, hlegible⟩ (tagLegible_endpointTriples s.endpoint) hbody
  · exact legible_of_read hlabel hclosing hbody hus

theorem handle_description {r : Http.Request} (hr : r.AsksDescription) {contentType body : String}
    (hd : s.description = .ok ⟨contentType, body⟩) :
    (s.handle r).status = 200 ∧ ("content-type", contentType) ∈ (s.handle r).headers ∧
      (s.handle r).body = body := by
  have hroute : s.route r = ⟨200, [("content-type", contentType)], body⟩ := by
    rw [route_description hr, hd]
    rfl
  obtain ⟨more, hhandle⟩ := handle_of_get (s := s) hr.method
  rw [hhandle, hroute]
  exact ⟨rfl, List.mem_append_left _ List.mem_cons_self, rfl⟩

/-- The description is always given. If it can be read, and no prefix closes its own bracket, then
it has one subject, which lies in the directory of the base as it is set. That is the IRI below the
base of all other names exactly if the base is set with a slash at its end. -/
theorem description_subject (hvalid : s.settings.validate = .ok ())
    (hbase : Iri.check ⟨s.settings.baseIri⟩ = .ok ()) (hfragment : '#' ∉ s.settings.baseIri.toList)
    {r : Http.Request} (hr : r.AsksDescription) :
    (s.handle r).status = 200 ∧
      ("content-type", GraphFormat.turtle.contentType) ∈ (s.handle r).headers ∧
      ((∀ e ∈ s.settings.prefixes, '>' ∉ e.2.toList) →
        ∀ ts, Turtle.read (s.handle r).body = .ok ts →
          ts ≠ [] ∧ ∃ endpoint : Iri, (∀ x ∈ ts, x.subject = endpoint) ∧
            (endpoint = ⟨Mapping.normalBase s.settings.baseIri ++ "sparql"⟩ ↔
              s.settings.baseIri.toList.getLast? = some '/') ∧
            (Iri.hasScheme s.settings.baseIri.toList →
              endpoint.text.toList =
                Iri.directory s.settings.baseIri.toList ++ "sparql".toList)) := by
  obtain ⟨body, hdescription, hread, hlegible⟩ := exists_description hvalid hbase
  obtain ⟨hstatus, hcontent, hbody⟩ := handle_description hr hdescription
  refine ⟨hstatus, hcontent, fun hprefixes ts hts => ?_⟩
  rw [hbody] at hts
  -- what can be read is the triples that were written, under the names that they were given
  have hclosing := not_closing_references (writable_of_check hvalid hbase) hprefixes
  have hus := Except.ok.inj (hts.symm.trans (hread (hlegible hclosing ⟨ts, hts⟩)))
  obtain ⟨hne, hsubject⟩ := subject_reread (endpointTriples_ne_nil _) subject_endpointTriples hus
  refine ⟨hne, _, hsubject, rereadSubject_eq_iff (scheme_of_validate hvalid) hfragment,
    fun habsolute => ?_⟩
  rw [rereadSubject_of_hasScheme habsolute hfragment, endpoint_text]

def based (base : String) : Service := ⟨{ baseIri := base }, .empty, []⟩

def describe : Http.Request := { target := "/sparql?format=xml" }

theorem asksDescription_describe : describe.AsksDescription :=
  ⟨rfl, by decide +kernel, [("format", "xml")], by decide +kernel, by decide⟩

theorem description_subject_app :
    let s := based "http://example.org/app/"
    (s.handle describe).status = 200 ∧
      ∃ ts, Turtle.read (s.handle describe).body = .ok ts ∧ ts ≠ [] ∧
        ∀ x ∈ ts, x.subject = ⟨"http://example.org/app/sparql"⟩ := by
  intro s
  have hvalid : s.settings.validate = .ok () := Settings.validate_eq_ok_iff.2 (by decide +kernel)
  have hbase : Iri.check ⟨s.settings.baseIri⟩ = .ok () := by decide +kernel
  obtain ⟨hstatus, -, hsubject⟩ :=
    description_subject hvalid hbase (by decide +kernel) asksDescription_describe
  obtain ⟨body, hdescription, hread, -⟩ := exists_description hvalid hbase
  obtain ⟨-, -, hbody⟩ := handle_description asksDescription_describe hdescription
  have hts := hread (legible_references (writable_of_check hvalid hbase) (by nofun))
  rw [← hbody] at hts
  obtain ⟨hne, endpoint, hendpoint, hiff, -⟩ := hsubject (by nofun) _ hts
  have hbelow : Mapping.normalBase s.settings.baseIri ++ "sparql" =
      "http://example.org/app/sparql" := by
    decide +kernel
  rw [hiff.2 (by decide +kernel), hbelow] at hendpoint
  exact ⟨hstatus, _, hts, hne, hendpoint⟩

/-- Without the slash the description is about an IRI that is not below the base of the service. -/
theorem description_beside_base :
    let s := based "http://example.org/app"
    s.settings.validate = .ok () ∧ Iri.check ⟨s.settings.baseIri⟩ = .ok () ∧
      ∃ ts, Turtle.read (s.handle describe).body = .ok ts ∧ ts ≠ [] ∧
        (∀ x ∈ ts, x.subject = ⟨"http://example.org/sparql"⟩) ∧
        Mapping.normalBase s.settings.baseIri ++ "sparql" = "http://example.org/app/sparql" := by
  intro s
  have hvalid : s.settings.validate = .ok () := Settings.validate_eq_ok_iff.2 (by decide +kernel)
  have hbase : Iri.check ⟨s.settings.baseIri⟩ = .ok () := by decide +kernel
  obtain ⟨body, hdescription, hread, -⟩ := exists_description hvalid hbase
  obtain ⟨-, -, hbody⟩ := handle_description asksDescription_describe hdescription
  have hts := hread (legible_references (writable_of_check hvalid hbase) (by nofun))
  rw [← hbody] at hts
  obtain ⟨hne, hsubject⟩ := subject_reread (endpointTriples_ne_nil _) subject_endpointTriples rfl
  have hendpoint : rereadSubject s.descriptionTable s.endpoint = ⟨"http://example.org/sparql"⟩ := by
    decide +kernel
  rw [hendpoint] at hsubject
  exact ⟨hvalid, hbase, _, hts, hne, hsubject, by decide +kernel⟩

end Service

end LinkedRaces
