import LinkedRaces.Proofs.Graph.Writer
import LinkedRaces.Proofs.Rdf.Resolution

/-!
JSON-LD documents read back. Keys, classes and datatypes are expanded through the context, an array
stands for its values, and a number or a truth value for a literal. The triples that were written
are read back, in another order at most.
-/

namespace LinkedRaces.JsonLd

open Dictionary (lookupEntry)

def fields? : Json → Option (List (String × Json))
  | .object fields => if (fields.map Prod.fst).Nodup then some fields else none
  | _ => none

def text? : Json → Option String
  | .string text => some text
  | _ => none

def context? (value : Json) : Option (Dictionary String) := do
  let entries ← (← fields? value).mapM fun (label, ns) => (text? ns).map (label, ·)
  return Dictionary.ofList entries

/-- The IRI that a text names. What is followed by two slashes is no prefix. -/
def expand (context : Dictionary String) (text : String) : Iri :=
  match Text.splitAt? [':'] text.toList with
  | some (label, name) =>
    if "//".toList.isPrefixOf name then ⟨text⟩
    else ((context.get? (String.ofList label)).map fun ns => ⟨ns ++ String.ofList name⟩).getD ⟨text⟩
  | none => ⟨text⟩

def literal? (context : Dictionary String) (fields : List (String × Json)) : Option Literal := do
  let lexical ← (lookupEntry "@value" fields).bind text?
  match lookupEntry "@language" fields, lookupEntry "@type" fields with
  | some tag, none => return .tagged lexical (← text? tag)
  | none, some datatype => return .typed lexical (expand context (← text? datatype))
  | none, none => return .plain lexical
  | some _, some _ => none

def object? (context : Dictionary String) : Json → Option Term
  | .string text => some (.literal (.plain text))
  | .bool value => some (.literal (.typed (toString value) Vocabulary.xsdBoolean))
  | .number n =>
    if n.fraction = [] ∧ n.exponent = none then
      some (.literal (.typed n.text Vocabulary.xsdInteger))
    else none
  | value => do
    let fields ← fields? value
    match lookupEntry "@id" fields with
    | some iri => return .iri ⟨← text? iri⟩
    | none => return .literal (← literal? context fields)

def values : Json → List Json
  | .array items => items
  | value => [value]

def statement? (context : Dictionary String) (subject : Iri) (name : String) (value : Json) :
    Option Triple :=
  if name = "@type" then
    (text? value).map fun c => ⟨subject, Vocabulary.rdfType, .iri (expand context c)⟩
  else (object? context value).map (⟨subject, expand context name, ·⟩)

def field? (context : Dictionary String) (subject : Iri) (field : String × Json) :
    Option (List Triple) :=
  if field.1 = "@id" then some []
  else (values field.2).mapM (statement? context subject field.1)

def node? (context : Dictionary String) (value : Json) : Option (List Triple) := do
  let fields ← fields? value
  let subject ← (lookupEntry "@id" fields).bind text?
  return (← fields.mapM (field? context ⟨subject⟩)).flatten

def graph? (value : Json) : Option (List Triple) := do
  let fields ← fields? value
  let context ← (lookupEntry "@context" fields).bind context?
  match lookupEntry "@graph" fields with
  | some (.array nodes) => return (← nodes.mapM (node? context)).flatten
  | _ => none

variable {t : Namespaces}

def LabelsPlain (t : Namespaces) : Prop := ∀ e ∈ t.prefixes.entries, ':' ∉ e.1.toList

instance : Decidable (LabelsPlain t) := inferInstanceAs (Decidable (∀ e ∈ _, _))

/-- Does not look like a short form: if a prefix of the table and a colon stand in front, then two
slashes follow. -/
def Unmistakable (t : Namespaces) (iri : Iri) : Prop :=
  ∀ e ∈ t.prefixes.entries, ∀ rest,
    iri.text.toList = e.1.toList ++ ':' :: rest → "//".toList <+: rest

instance (iri : Iri) : Decidable (Unmistakable t iri) :=
  decidable_of_iff (∀ e ∈ t.prefixes.entries,
      ∀ rest ∈ Text.dropBeginning? (e.1.toList ++ [':']) iri.text.toList, "//".toList <+: rest) (by
    simp [Unmistakable, Text.dropBeginning?_eq_some_iff])

/-- The datatype does not look like a short form, and a number is spelled in the usual way. -/
def LiteralReadable (t : Namespaces) (l : Literal) : Prop :=
  (∀ datatype ∈ l.datatype?, Unmistakable t datatype) ∧
  (l.datatype? = some Vocabulary.xsdInteger → ∀ n ∈ l.integer?, l.lexical = toString n)

instance (l : Literal) : Decidable (LiteralReadable t l) := inferInstanceAs (Decidable (_ ∧ _))

def ObjectReadable (t : Namespaces) : Term → Prop
  | .literal l => LiteralReadable t l
  | _ => True

instance : DecidablePred (ObjectReadable t)
  | .literal l => inferInstanceAs (Decidable (LiteralReadable t l))
  | .iri _ | .var _ => inferInstanceAs (Decidable True)

structure Readable (t : Namespaces) (x : Triple) : Prop where
  check : x.check = .ok ()
  predicate : Unmistakable t x.predicate
  stated : ∀ c ∈ x.class?, Unmistakable t c
  object : ObjectReadable t x.object

instance (x : Triple) : Decidable (Readable t x) :=
  decidable_of_iff (x.check = .ok () ∧ Unmistakable t x.predicate ∧
      (∀ c ∈ x.class?, Unmistakable t c) ∧ ObjectReadable t x.object)
    ⟨fun ⟨h₁, h₂, h₃, h₄⟩ => ⟨h₁, h₂, h₃, h₄⟩, fun ⟨h₁, h₂, h₃, h₄⟩ => ⟨h₁, h₂, h₃, h₄⟩⟩

theorem toList_compact (t : Namespaces) (iri : Iri) :
    (∃ a, t.abbreviate? iri.text = some a ∧
      (compact t iri).toList = a.label.toList ++ ':' :: a.name) ∨ compact t iri = iri.text := by
  cases h : t.abbreviate? iri.text with
  | none => exact .inr (by simp [compact, Namespaces.compact?_eq, h])
  | some a =>
    exact .inl ⟨a, rfl, by
      simp [compact, Namespaces.compact?_eq, h, Namespaces.Abbreviation.text]⟩

theorem colon_mem_compact {iri : Iri} (h : ':' ∈ iri.text.toList) :
    ':' ∈ (compact t iri).toList := by
  rcases toList_compact t iri with ⟨a, -, hcompact⟩ | hcompact
  · simp [hcompact]
  · rwa [hcompact]

theorem compact_ne {iri : Iri} (h : iri.check = .ok ()) {name : String} (hname : ':' ∉ name.toList) :
    compact t iri ≠ name := by
  rintro rfl
  exact hname (colon_mem_compact (Iri.check_eq_ok_iff.1 h).2.1)

theorem not_slashes_of_isLocalName {name : List Char} (h : isLocalName name) :
    "//".toList.isPrefixOf name = false := by
  cases name with
  | nil => rfl
  | cons c rest =>
    have hc : c ≠ '/' := by
      rintro rfl
      simp [isLocalName, show Text.isAlphanumeric '/' = false by decide] at h
    simp [List.isPrefixOf, hc.symm]

/-- A short form leads back to the IRI that was shortened. -/
theorem expand_compact (ht : LabelsPlain t) {iri : Iri}
    (h : Unmistakable t iri) : expand t.prefixes (compact t iri) = iri := by
  rcases toList_compact t iri with ⟨a, ha, hcompact⟩ | hcompact
  · obtain ⟨hmem, -, hlocal⟩ := Namespaces.abbreviate?_spec ha
    have hexpand : (t.prefixes.get? a.label).map (fun ns => Iri.mk (ns ++ String.ofList a.name)) =
        some iri := Namespaces.expand?_abbreviation ha
    simp only [expand, hcompact, Text.splitAt?_append (ht _ hmem), String.ofList_toList,
      not_slashes_of_isLocalName hlocal, hexpand]
    simp
  · rw [hcompact, expand]
    cases hsplit : Text.splitAt? [':'] iri.text.toList with
    | none => rfl
    | some parts =>
      obtain ⟨label, name⟩ := parts
      simp only
      split
      next => rfl
      next hslashes =>
        cases hget : t.prefixes.get? (String.ofList label) with
        | none => rfl
        | some ns =>
          have htext : iri.text.toList = (String.ofList label).toList ++ ':' :: name := by
            simpa using Text.eq_of_splitAt? hsplit
          exact absurd (List.isPrefixOf_iff_prefix.2
            (h _ (Dictionary.mem_of_get? hget) name htext)) hslashes

theorem text_ofInt (n : Int) : (Json.Numeral.ofInt n).text = toString n := by
  cases n with
  | ofNat k =>
    have hpositive : ¬ Int.ofNat k < 0 := Int.not_lt.2 (Int.natCast_nonneg k)
    have hprinted : toString (Int.ofNat k) = String.ofList (Nat.toDigits 10 k) := rfl
    rw [hprinted]
    simp only [Json.Numeral.text, Json.Numeral.ofInt, hpositive]
    simp
  | negSucc k =>
    have hprinted : toString (Int.negSucc k) = "-" ++ String.ofList (Nat.toDigits 10 (k + 1)) := rfl
    simp [Json.Numeral.text, Json.Numeral.ofInt, hprinted]

theorem object?_ofInt (context : Dictionary String) (n : Int) :
    object? context (Json.ofInt n) =
      some (.literal (.typed (toString n) Vocabulary.xsdInteger)) := by
  rw [← text_ofInt]
  rfl

theorem object?_native {l : Literal} {datatype : Iri} {value : Json}
    (hk : l.kind = .typed datatype) (hl : LiteralReadable t l)
    (h : native? l datatype = some value) :
    object? t.prefixes value = some (.literal l) := by
  have htyped : Literal.typed l.lexical datatype = l := Literal.typed_eq hk
  unfold native? at h
  split at h
  next hinteger =>
    obtain ⟨n, hn, rfl⟩ := Option.map_eq_some_iff.1 h
    have hlexical : l.lexical = toString n :=
      hl.2 (by simp [Literal.datatype?, hk, hinteger]) n hn
    rw [object?_ofInt, ← hlexical, ← hinteger, htyped]
  next =>
    obtain ⟨hboolean, h⟩ := Option.ite_none_right_eq_some.1 h
    split at h
    next hlexical =>
      cases h
      rw [← htyped, hlexical, hboolean]
      rfl
    next =>
      obtain ⟨hlexical, h⟩ := Option.ite_none_right_eq_some.1 h
      cases h
      rw [← htyped, hlexical, hboolean]
      rfl

theorem object?_literalValue (ht : LabelsPlain t) {l : Literal}
    (hl : LiteralReadable t l) : object? t.prefixes (literalValue t l) = some (.literal l) := by
  unfold literalValue
  split
  next hk => simp [object?, Literal.plain_eq hk]
  next tag hk =>
    simp [object?, fields?, literal?, lookupEntry, text?, Literal.tagged_eq hk]
  next datatype hk =>
    cases hnative : native? l datatype with
    | some value => exact object?_native hk hl hnative
    | none =>
      have hexpand := expand_compact ht (hl.1 datatype (by simp [Literal.datatype?, hk]))
      simp [object?, fields?, literal?, lookupEntry, text?, hexpand, Literal.typed_eq hk]

theorem object?_eq (ht : LabelsPlain t) {o : Term}
    (ho : ObjectReadable t o) {value : Json} (h : objectValue t o = .ok value) :
    object? t.prefixes value = some o := by
  cases o with
  | iri i =>
    cases h
    simp [object?, fields?, lookupEntry, text?]
  | literal l =>
    cases h
    exact object?_literalValue ht ho
  | var name => cases h

variable {context : Dictionary String} {subject : Iri} {name : String}

theorem values_of_statement? {value : Json} {x : Triple}
    (h : statement? context subject name value = some x) : values value = [value] := by
  cases value with
  | array items => simp [statement?, text?, object?, fields?] at h
  | _ => rfl

theorem values_collapse {vs : List Json} {xs : List Triple}
    (h : List.Forall₂ (fun v x => statement? context subject name v = some x) vs xs) :
    values (collapse vs) = vs := by
  match h with
  | .nil => rfl
  | .cons hv .nil => exact values_of_statement? hv
  | .cons _ (.cons _ _) => rfl

theorem field?_id (value : Json) : field? context subject ("@id", value) = some [] := rfl

theorem field?_collapse {vs : List Json} {xs : List Triple} (hname : name ≠ "@id")
    (h : List.Forall₂ (fun v x => statement? context subject name v = some x) vs xs) :
    field? context subject (name, collapse vs) = some xs := by
  rw [field?, if_neg hname, values_collapse h, mapM_eq_some h]

theorem statement?_eq (ht : LabelsPlain t) {x : Triple} (hx : Readable t x) {value : Json}
    (h : objectValue t x.object = .ok value) :
    statement? t.prefixes x.subject (compact t x.predicate) value = some x := by
  have htype : compact t x.predicate ≠ "@type" :=
    compact_ne (Triple.check_eq_ok_iff.1 hx.check).2.1 (by decide)
  simp [statement?, htype, object?_eq ht hx.object h, expand_compact ht hx.predicate]

theorem statement?_class (ht : LabelsPlain t) {x : Triple} (hx : Readable t x) {c : Iri}
    (h : x.class? = some c) :
    statement? t.prefixes x.subject "@type" (.string (compact t c)) = some x := by
  simp [statement?, text?, expand_compact ht (hx.stated c h), ← Triple.eq_of_class? h]

theorem classes_stated (ht : LabelsPlain t) {xs : List Triple}
    (hx : ∀ x ∈ xs, x.subject = subject ∧ Readable t x) :
    List.Forall₂ (fun v x => statement? t.prefixes subject "@type" v = some x)
      ((xs.filterMap Triple.class?).map fun c => .string (compact t c))
      (xs.filter fun x => x.class?.isSome) := by
  induction xs with
  | nil => exact .nil
  | cons x xs ih =>
    obtain ⟨⟨rfl, hfirst⟩, hx⟩ := List.forall_mem_cons.1 hx
    cases hclass : x.class? with
    | none => simpa [hclass] using ih hx
    | some c =>
      rw [List.filterMap_cons_some hclass, List.filter_cons_of_pos (by simp [hclass])]
      exact .cons (statement?_class ht hfirst hclass) (ih hx)

def classFields (t : Namespaces) (xs : List Triple) : List (String × Json) :=
  if (xs.filterMap Triple.class?).isEmpty then []
  else [("@type", collapse ((xs.filterMap Triple.class?).map fun c => .string (compact t c)))]

theorem exists_classFields (ht : LabelsPlain t) {xs : List Triple}
    (hx : ∀ x ∈ xs, x.subject = subject ∧ Readable t x) :
    ∃ xss, (classFields t xs).mapM (field? t.prefixes subject) = some xss ∧
      xss.flatten = xs.filter fun x => x.class?.isSome := by
  have hstated := classes_stated ht hx
  unfold classFields
  split
  next hnone =>
    rw [List.isEmpty_iff.1 hnone] at hstated
    exact ⟨[], rfl, (List.forall₂_nil_left_iff.1 hstated).symm⟩
  next => exact ⟨[_], by simp [field?_collapse (by decide) hstated], List.append_nil _⟩

theorem field?_group (ht : LabelsPlain t) {g : String × List Triple} (hid : g.1 ≠ "@id")
    (hg : ∀ x ∈ g.2, compact t x.predicate = g.1 ∧ x.subject = subject ∧ Readable t x)
    {vs : List Json} (h : g.2.mapM (fun x => objectValue t x.object) = .ok vs) :
    field? t.prefixes subject (g.1, collapse vs) = some g.2 := by
  refine field?_collapse hid (List.Forall₂.flip ?_)
  refine ((List.forall₂_and_left _ _).2 ⟨hg, forall₂_of_mapM_eq_ok h⟩).imp ?_
  rintro x v ⟨⟨hkey, rfl, hx⟩, hv⟩
  rw [← hkey]
  exact statement?_eq ht hx hv

theorem exists_properties (ht : LabelsPlain t) {xs : List Triple}
    (hx : ∀ x ∈ xs, x.subject = subject ∧ Readable t x) {properties : List (String × Json)}
    (h : (groupBy (fun x => compact t x.predicate) xs).mapM (fun (key, xs) => do
        return (key, collapse (← xs.mapM fun x => objectValue t x.object))) =
      (.ok properties : Except WriteError _)) :
    (∃ xss, properties.mapM (field? t.prefixes subject) = some xss ∧ xss.flatten.Perm xs) ∧
      properties.map Prod.fst = (groupBy (fun x => compact t x.predicate) xs).map Prod.fst := by
  have hgroups : ∀ g ∈ groupBy (fun x => compact t x.predicate) xs, g.1 ≠ "@id" ∧
      ∀ x ∈ g.2, compact t x.predicate = g.1 ∧ x.subject = subject ∧ Readable t x := by
    intro g hg
    obtain ⟨x, hmem, hkey⟩ := exists_mem_of_mem_groupBy hg
    have hcheck := (Triple.check_eq_ok_iff.1 (hx x hmem).2.check).2.1
    exact ⟨hkey ▸ compact_ne hcheck (by decide), forall_mem_groupBy hx hg⟩
  have hread : List.Forall₂ (fun field g => field.1 = g.1 ∧
      field? t.prefixes subject field = some g.2) properties
      (groupBy (fun x => compact t x.predicate) xs) := by
    refine (((List.forall₂_and_left _ _).2 ⟨hgroups, forall₂_of_mapM_eq_ok h⟩).imp ?_).flip
    rintro g field ⟨⟨hid, hg⟩, hfield⟩
    obtain ⟨vs, hvs, hfield⟩ := Scanner.bind_eq_ok.1 hfield
    cases hfield
    exact ⟨rfl, field?_group ht hid hg hvs⟩
  refine ⟨⟨(groupBy (fun x => compact t x.predicate) xs).map Prod.snd, ?_, ?_⟩, ?_⟩
  · exact mapM_eq_some (List.forall₂_map_right_iff.2 (hread.imp fun _ _ h => h.2))
  · exact perm_flatMap_groupBy _ xs
  · rw [← List.forall₂_eq_eq_eq, List.forall₂_map_left_iff, List.forall₂_map_right_iff]
    exact hread.imp fun _ _ h => h.1

theorem nodup_names {xs : List Triple} (hx : ∀ x ∈ xs, x.check = .ok ())
    (ys : List Triple) (subject : Json) {properties : List (String × Json)}
    (h : properties.map Prod.fst = (groupBy (fun x => compact t x.predicate) xs).map Prod.fst) :
    ((("@id", subject) :: (classFields t ys ++ properties)).map Prod.fst).Nodup := by
  have hplain : ∀ name : String, ':' ∉ name.toList → name ∉ properties.map Prod.fst := by
    rintro name hname hmem
    rw [h] at hmem
    obtain ⟨x, hmem, hkey⟩ := mem_keys_groupBy.1 hmem
    exact compact_ne (Triple.check_eq_ok_iff.1 (hx x hmem)).2.1 hname hkey
  have hproperties : (properties.map Prod.fst).Nodup := h ▸ (grouped_groupBy _ xs).nodup
  have hid := hplain "@id" (by decide)
  have htype := hplain "@type" (by decide)
  unfold classFields
  split
  · exact List.nodup_cons.2 ⟨hid, hproperties⟩
  · have hne : "@id" ≠ "@type" := by decide
    exact List.nodup_cons.2 ⟨List.not_mem_cons_of_ne_of_not_mem hne hid,
      List.nodup_cons.2 ⟨htype, hproperties⟩⟩

theorem node?_eq {fields : List (String × Json)} {xss : List (List Triple)}
    (hnodup : ((("@id", Json.string subject.text) :: fields).map Prod.fst).Nodup)
    (h : fields.mapM (field? context subject) = some xss) :
    node? context (.object (("@id", .string subject.text) :: fields)) = some xss.flatten := by
  rw [node?, fields?, if_pos hnodup]
  simp [lookupEntry, text?, List.mapM_cons, field?_id, h]

theorem node_eq_ok {xs : List Triple} {value : Json} (h : node t subject xs = .ok value) :
    ∃ properties, (groupBy (fun x => compact t x.predicate) (xs.filter (·.class?.isNone))).mapM
        (fun (key, xs) => do
          return (key, collapse (← xs.mapM fun x => objectValue t x.object))) =
        (.ok properties : Except WriteError _) ∧
      value = .object (("@id", .string subject.text) :: (classFields t xs ++ properties)) := by
  obtain ⟨properties, hproperties, h⟩ := Scanner.bind_eq_ok.1 h
  cases h
  exact ⟨properties, hproperties, rfl⟩

theorem exists_node? (ht : LabelsPlain t) {xs : List Triple}
    (hx : ∀ x ∈ xs, x.subject = subject ∧ Readable t x) {value : Json}
    (h : node t subject xs = .ok value) :
    ∃ stated, node? t.prefixes value = some stated ∧ stated.Perm xs := by
  obtain ⟨properties, hproperties, rfl⟩ := node_eq_ok h
  have hrest : ∀ x ∈ xs.filter (·.class?.isNone), x.subject = subject ∧ Readable t x :=
    fun x hmem => hx x (List.mem_of_mem_filter hmem)
  obtain ⟨classes, hclasses, heq⟩ := exists_classFields ht hx
  obtain ⟨⟨stated, hstated, hperm⟩, hnames⟩ := exists_properties ht hrest hproperties
  have hnodup := nodup_names (fun x hmem => (hrest x hmem).2.check) xs (.string subject.text) hnames
  refine ⟨(classes ++ stated).flatten, node?_eq hnodup ?_, ?_⟩
  · simp [List.mapM_append, hclasses, hstated]
  · rw [List.flatten_append, heq]
    refine (hperm.append_left _).trans ?_
    simpa using List.filter_append_perm (fun x => x.class?.isSome) xs

theorem context?_entries (d : Dictionary String) :
    context? (.object (d.entries.map fun (label, ns) => (label, .string ns))) = some d := by
  have hnodup : ((d.entries.map fun (label, ns) => (label, Json.string ns)).map Prod.fst).Nodup := by
    simpa [Function.comp_def] using d.nodup
  have hentries : (d.entries.map fun (label, ns) => (label, Json.string ns)).mapM
      (fun (label, ns) => (text? ns).map (label, ·)) = some d.entries :=
    mapM_eq_some (List.forall₂_map_left_iff.2 (List.forall₂_same.2 fun _ _ => rfl))
  rw [context?, fields?, if_pos hnodup]
  simp [hentries, Dictionary.ofList, Dictionary.insertAll_empty]

/-- Every document states the triples that it was written from, each as often, if the prefixes have
no colon and each triple is readable under the table. -/
theorem triples_of_document (ht : LabelsPlain t) {ts : List Triple} (hts : ∀ x ∈ ts, Readable t x) :
    ∃ value stated, document t ts = .ok value ∧ graph? value = some stated ∧ stated.Perm ts := by
  obtain ⟨body, hbody⟩ := (exists_write_iff (t := t)).2 fun x hx => (hts x hx).check
  obtain ⟨value, hvalue, -⟩ := Scanner.bind_eq_ok.1 hbody
  obtain ⟨-, -, hrest⟩ := Scanner.bind_eq_ok.1 hvalue
  obtain ⟨nodes, hnodes, heq⟩ := Scanner.bind_eq_ok.1 hrest
  cases heq
  have hread := ((List.forall₂_and_left _ _).2
    ⟨fun _ => forall_mem_groupBy hts, forall₂_of_mapM_eq_ok hnodes⟩).imp
    fun _ _ h => exists_node? ht h.1 h.2
  obtain ⟨xss, hxss, hperm⟩ := exists_mapM_perm hread
  refine ⟨_, xss.flatten, hvalue, ?_, hperm.trans (perm_flatMap_groupBy Triple.subject ts)⟩
  simp [graph?, fields?, lookupEntry, context?_entries, hxss]

def sprintTable : Namespaces :=
  (((Namespaces.empty.insert "http" "http://e/").insert "s" Vocabulary.schema).insert
    "" "http://e/terms#").insert "xsd" Vocabulary.xsd

def sprint : List Triple :=
  let race : Iri := ⟨"http://e/races/1"⟩
  let laps : Iri := ⟨"http://e/terms#laps"⟩
  [⟨race, Vocabulary.rdfType, .iri (Vocabulary.schemaName "Event")⟩,
    ⟨race, laps, .literal (.typed "-4" Vocabulary.xsdInteger)⟩,
    ⟨⟨"http://e/clubs#1"⟩, Vocabulary.schemaName "name", .literal (.plain "http:x")⟩,
    ⟨race, laps, .literal (.typed "4.0" Vocabulary.xsdDecimal)⟩,
    ⟨race, Vocabulary.rdfType, .iri ⟨"http://e/classes/10"⟩⟩,
    ⟨race, ⟨"http://e/open"⟩, .literal (.typed "true" Vocabulary.xsdBoolean)⟩,
    ⟨race, Vocabulary.schemaName "name", .literal (.tagged "Staffel" "DE")⟩,
    ⟨race, Vocabulary.rdfType, .literal (.plain "http:x")⟩]

theorem triples_of_document_sprint :
    LabelsPlain sprintTable ∧ (∀ x ∈ sprint, Readable sprintTable x) ∧
    ∃ value stated, document sprintTable sprint = .ok value ∧ graph? value = some stated ∧
      stated.Perm sprint := by
  have ht : LabelsPlain sprintTable := by decide +kernel
  have hts : ∀ x ∈ sprint, Readable sprintTable x := by decide +kernel
  exact ⟨ht, hts, triples_of_document ht hts⟩

end LinkedRaces.JsonLd
