import LinkedRaces.Proofs.Graph.RdfXml.Elements
import LinkedRaces.Proofs.Graph.Writer

/-!
Documents read back. A child of the root stands for the class that it is named after, and each element
inside it for one triple; names are expanded through the declarations of the root. The triples that
were written are read back, in another order at most.
-/

namespace LinkedRaces.RdfXml

open Dictionary (lookupEntry)

def textContent? : List Xml.Node → Option String
  | [] => some ""
  | .text s :: rest => (textContent? rest).map (s ++ ·)
  | .element .. :: _ => none

def literalOf (attributes : List (String × String)) (text : String) : Literal :=
  match lookupEntry "rdf:datatype" attributes, lookupEntry "xml:lang" attributes with
  | some datatype, _ => .typed text ⟨datatype⟩
  | none, some tag => .tagged text tag
  | none, none => .plain text

def object? (attributes : List (String × String)) (children : List Xml.Node) : Option Term :=
  match lookupEntry "rdf:resource" attributes with
  | some iri => some (.iri ⟨iri⟩)
  | none => (textContent? children).map fun text => .literal (literalOf attributes text)

def property? (declared : List (String × String)) (subject : Iri) : Xml.Node → Option Triple
  | .text _ => none
  | .element name attributes children => do
    return ⟨subject, ← expandName? declared name, ← object? attributes children⟩

def description? (declared : List (String × String)) : Xml.Node → Option (List Triple)
  | .text _ => none
  | .element name attributes children => do
    let subject ← (lookupEntry "rdf:about" attributes).map Iri.mk
    let stated ← children.mapM (property? declared subject)
    if name = "rdf:Description" then return stated
    else return ⟨subject, Vocabulary.rdfType, .iri (← expandName? declared name)⟩ :: stated

def graph? : Xml.Node → Option (List Triple)
  | .text _ => none
  | .element _ declared children => (children.mapM (description? declared)).map List.flatten

variable {declared : List (String × String)}

theorem object?_eq {o : Term} (h : o.isVar = false) :
    object? (objectAttributes o) (objectContent o) = some o := by
  cases o with
  | iri i => rfl
  | var name => cases h
  | literal l =>
    cases hk : l.kind with
    | plain =>
      simp [object?, objectAttributes, objectContent, literalOf, lookupEntry, textContent?, hk,
        Literal.plain_eq hk]
    | language tag =>
      simp [object?, objectAttributes, objectContent, literalOf, lookupEntry, textContent?, hk,
        Literal.tagged_eq hk]
    | typed datatype =>
      simp [object?, objectAttributes, objectContent, literalOf, lookupEntry, textContent?, hk,
        Literal.typed_eq hk]

theorem property?_eq {x : Triple} {node : Xml.Node}
    (h : States (fun name iri => expandName? declared name = some iri) x node) :
    property? declared x.subject node = some x := by
  obtain ⟨hvar, name, hname, rfl⟩ := h
  simp [property?, hname, object?_eq hvar]

theorem mapM_property? {subject : Iri} {xs : List Triple} {nodes : List Xml.Node}
    (h : List.Forall₂ (States fun name iri => expandName? declared name = some iri) xs nodes)
    (hs : ∀ x ∈ xs, x.subject = subject) :
    nodes.mapM (property? declared subject) = some xs := by
  refine mapM_eq_some (((List.forall₂_and_left _ _).2 ⟨hs, h⟩).flip.imp ?_)
  rintro node x ⟨rfl, hx⟩
  exact property?_eq hx

theorem exists_description? {subject : Iri} {xs : List Triple} {node : Xml.Node}
    (h : Describes (fun name iri => expandName? declared name = some iri) subject xs node)
    (hx : ∀ x ∈ xs, x.subject = subject ∧ x.class? ≠ some descriptionIri) :
    ∃ ys, description? declared node = some ys ∧ ys.Perm xs := by
  cases h with
  | untyped stated =>
    have hread := mapM_property? stated fun x hmem => (hx x hmem).1
    exact ⟨xs, by simp [description?, lookupEntry, hread], .refl xs⟩
  | @typed name c x before after nodes split isClass names tells stated =>
    subst split
    obtain ⟨rfl, hclass⟩ := hx x (by simp)
    have hname : name ≠ "rdf:Description" := fun hname => hclass (tells hname ▸ isClass)
    have hread := mapM_property? stated fun y hy => (hx y (by simp at hy ⊢; tauto)).1
    refine ⟨x :: (before ++ after), ?_, List.perm_middle.symm⟩
    simp [description?, lookupEntry, hread, hname, names, ← Triple.eq_of_class? isClass]

/-- Every document that is written has the triples that it was written from, each as often, under
any table that keeps the prefix `rdf`, if no class has the name of a description without a class. -/
theorem triples_of_write {t : Namespaces} (ht : t.KeepsRdf) {ts : List Triple}
    (hclass : ∀ x ∈ ts, x.class? ≠ some descriptionIri) {body : String}
    (h : write t ts = .ok body) :
    ∃ tree stated, body = Xml.document tree ∧ root t ts = .ok tree ∧ graph? tree = some stated ∧
      stated.Perm ts := by
  obtain ⟨tree, htree, rfl⟩ := write_eq_ok h
  obtain ⟨declared, nodes, rfl, -, hdescribed⟩ := root_spec ht htree
  have hread := ((List.forall₂_and_left _ _).2
    ⟨fun _ => forall_mem_groupBy hclass, hdescribed⟩).imp fun _ _ h => exists_description? h.2 h.1
  obtain ⟨yss, hyss, hperm⟩ := exists_mapM_perm hread
  exact ⟨_, yss.flatten, rfl, htree, by simp [graph?, hyss],
    hperm.trans (perm_flatMap_groupBy Triple.subject ts)⟩

theorem triples_of_write_relay :
    relayTable.KeepsRdf ∧ (∀ x ∈ relay, x.class? ≠ some descriptionIri) ∧
    write relayTable relay = .ok relayText ∧
    ∃ tree stated, relayText = Xml.document tree ∧ root relayTable relay = .ok tree ∧
      graph? tree = some stated ∧ stated.Perm relay := by
  have hclass : ∀ x ∈ relay, x.class? ≠ some descriptionIri := by decide +kernel
  exact ⟨keepsRdf_relayTable, hclass, write_relay,
    triples_of_write keepsRdf_relayTable hclass write_relay⟩

end LinkedRaces.RdfXml
