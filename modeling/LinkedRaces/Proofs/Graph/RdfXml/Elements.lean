import LinkedRaces.Proofs.Graph.RdfXml.Declarations
import LinkedRaces.Proofs.Grouping
import Mathlib.Data.List.Forall2

/-!
What the elements of a document stand for. Every element name stands for the IRI that it was made
from, under the declarations of the root; an element for a subject has one element for each of its
triples, apart from the class that it is named after.
-/

namespace LinkedRaces.RdfXml

open Declarations

variable {t : Namespaces} {d d' : Declarations}

def objectAttributes : Term → List (String × String)
  | .iri i => [("rdf:resource", i.text)]
  | .literal l =>
    match l.kind with
    | .plain => []
    | .language tag => [("xml:lang", tag)]
    | .typed datatype => [("rdf:datatype", datatype.text)]
  | .var _ => []

def objectContent : Term → List Xml.Node
  | .literal l => [.text l.lexical]
  | _ => []

/-- The element states the triple of its subject; `named` says which names stand for which IRIs. -/
def States (named : String → Iri → Prop) (x : Triple) (node : Xml.Node) : Prop :=
  x.object.isVar = false ∧ ∃ name, named name x.predicate ∧
    node = .element name (objectAttributes x.object) (objectContent x.object)

def descriptionIri : Iri := ⟨Vocabulary.rdf ++ "Description"⟩

/-- The element describes a subject with its triples: it states all of them, or it is named after the
class of one and states the others. Only for `descriptionIri` as a class does the name not tell. -/
inductive Describes (named : String → Iri → Prop) (subject : Iri) (xs : List Triple) :
    Xml.Node → Prop
  | untyped {nodes : List Xml.Node} (stated : List.Forall₂ (States named) xs nodes) :
    Describes named subject xs (.element "rdf:Description" [("rdf:about", subject.text)] nodes)
  | typed {name : String} {c : Iri} {x : Triple} {before after : List Triple}
    {nodes : List Xml.Node} (split : xs = before ++ x :: after) (isClass : x.class? = some c)
    (names : named name c) (tells : name = "rdf:Description" → c = descriptionIri)
    (stated : List.Forall₂ (States named) (before ++ after) nodes) :
    Describes named subject xs (.element name [("rdf:about", subject.text)] nodes)

theorem States.mono {named named' : String → Iri → Prop}
    (h : ∀ name iri, named name iri → named' name iri) {x : Triple} {node : Xml.Node}
    (hx : States named x node) : States named' x node := by
  obtain ⟨hvar, name, hname, hnode⟩ := hx
  exact ⟨hvar, name, h name _ hname, hnode⟩

theorem Describes.mono {named named' : String → Iri → Prop}
    (h : ∀ name iri, named name iri → named' name iri) {subject : Iri} {xs : List Triple}
    {node : Xml.Node} (hnode : Describes named subject xs node) :
    Describes named' subject xs node := by
  cases hnode with
  | untyped stated => exact .untyped (stated.imp fun _ _ => States.mono h)
  | typed split isClass names tells stated =>
    exact .typed split isClass (h _ _ names) tells (stated.imp fun _ _ => States.mono h)

theorem property_spec (hd : Sound t d) {x : Triple} {node : Xml.Node}
    (h : property t d x = .ok (node, d')) :
    Sound t d' ∧ Extends d d' ∧ States (Names d') x node := by
  unfold property at h
  split at h
  next => cases h
  next name d₁ hname =>
    obtain ⟨hsound, hextends, hnames⟩ := elementName_spec hd hname
    split at h
    next i hobject =>
      cases h
      exact ⟨hsound, hextends, by rw [hobject]; rfl, name, hnames, by rw [hobject]; rfl⟩
    next l hobject =>
      cases h
      exact ⟨hsound, hextends, by rw [hobject]; rfl, name, hnames, by rw [hobject]; rfl⟩
    next => cases h

theorem properties_spec (hd : Sound t d) {xs : List Triple} {nodes : List Xml.Node}
    (h : properties t d xs = .ok (nodes, d')) :
    Sound t d' ∧ Extends d d' ∧ List.Forall₂ (States (Names d')) xs nodes := by
  induction xs generalizing d nodes with
  | nil =>
    cases h
    exact ⟨hd, .refl _, .nil⟩
  | cons x xs ih =>
    obtain ⟨⟨node, d₁⟩, hnode, h⟩ := Scanner.bind_eq_ok.1 h
    obtain ⟨⟨rest, d₂⟩, hrest, h⟩ := Scanner.bind_eq_ok.1 h
    cases h
    obtain ⟨hd₁, hextends₁, hstates⟩ := property_spec hd hnode
    obtain ⟨hd₂, hextends₂, hstated⟩ := ih hd₁ hrest
    exact ⟨hd₂, hextends₁.trans hextends₂,
      .cons (hstates.mono fun _ _ => Names.mono hextends₂) hstated⟩

theorem splitClass_spec (hd : Sound t d) {xs rest : List Triple} {name : String}
    (h : splitClass t d xs = some (name, d', rest)) :
    Sound t d' ∧ Extends d d' ∧ ∃ before x after c, xs = before ++ x :: after ∧
      rest = before ++ after ∧ x.class? = some c ∧ Names d' name c := by
  induction xs generalizing rest with
  | nil => cases h
  | cons x xs ih =>
    rw [splitClass] at h
    split at h
    next name₁ d₁ hclass =>
      obtain ⟨c, hc, hname⟩ := Option.map_eq_some_iff.1 hclass
      cases h
      obtain ⟨hsound, hextends, hnames⟩ := elementName_spec hd hname
      exact ⟨hsound, hextends, [], x, xs, c, rfl, rfl, hc, hnames⟩
    next =>
      obtain ⟨⟨name₁, d₁, rest₁⟩, hsplit, heq⟩ := Option.map_eq_some_iff.1 h
      cases heq
      obtain ⟨hsound, hextends, before, y, after, c, rfl, rfl, hc, hnames⟩ := ih hsplit
      exact ⟨hsound, hextends, x :: before, y, after, c, rfl, rfl, hc, hnames⟩

theorem description_spec (hd : Sound t d) {subject : Iri} {xs : List Triple} {node : Xml.Node}
    (h : description t d subject xs = .ok (node, d')) :
    Sound t d' ∧ Extends d d' ∧ Describes (Names d') subject xs node := by
  unfold description at h
  cases hsplit : splitClass t d xs with
  | none =>
    simp only [hsplit, Option.getD_none] at h
    obtain ⟨⟨nodes, d₁⟩, hnodes, h⟩ := Scanner.bind_eq_ok.1 h
    cases h
    obtain ⟨hsound, hextends, hstated⟩ := properties_spec hd hnodes
    exact ⟨hsound, hextends, .untyped hstated⟩
  | some found =>
    obtain ⟨name, d₁, rest⟩ := found
    simp only [hsplit, Option.getD_some] at h
    obtain ⟨⟨nodes, d₂⟩, hnodes, h⟩ := Scanner.bind_eq_ok.1 h
    cases h
    obtain ⟨hsound₁, hextends₁, before, x, after, c, rfl, rfl, hc, hnames⟩ :=
      splitClass_spec hd hsplit
    obtain ⟨hsound₂, hextends₂, hstated⟩ := properties_spec hsound₁ hnodes
    refine ⟨hsound₂, hextends₁.trans hextends₂,
      .typed rfl hc (hnames.mono hextends₂) (fun hname => ?_) hstated⟩
    rw [hname] at hnames
    exact hsound₁.eq_of_names_description hnames

theorem descriptions_spec (hd : Sound t d) {gs : List (Iri × List Triple)} {nodes : List Xml.Node}
    (h : descriptions t d gs = .ok (nodes, d')) :
    Sound t d' ∧ Extends d d' ∧
      List.Forall₂ (fun g node => Describes (Names d') g.1 g.2 node) gs nodes := by
  induction gs generalizing d nodes with
  | nil =>
    cases h
    exact ⟨hd, .refl _, .nil⟩
  | cons g gs ih =>
    obtain ⟨⟨node, d₁⟩, hnode, h⟩ := Scanner.bind_eq_ok.1 h
    obtain ⟨⟨rest, d₂⟩, hrest, h⟩ := Scanner.bind_eq_ok.1 h
    cases h
    obtain ⟨hd₁, hextends₁, hdescribes⟩ := description_spec hd hnode
    obtain ⟨hd₂, hextends₂, hdescribed⟩ := ih hd₁ hrest
    exact ⟨hd₂, hextends₁.trans hextends₂,
      .cons (hdescribes.mono fun _ _ => Names.mono hextends₂) hdescribed⟩

theorem root_spec (ht : t.KeepsRdf) {ts : List Triple} {tree : Xml.Node}
    (h : root t ts = .ok tree) :
    ∃ declared nodes, tree = .element "rdf:RDF" declared nodes ∧
      (declared.map Prod.fst).Nodup ∧
      List.Forall₂ (fun g node =>
        Describes (fun name iri => expandName? declared name = some iri) g.1 g.2 node)
        (groupBy Triple.subject ts) nodes := by
  obtain ⟨_, -, h⟩ := Scanner.bind_eq_ok.1 h
  obtain ⟨⟨nodes, d⟩, hnodes, h⟩ := Scanner.bind_eq_ok.1 h
  cases h
  obtain ⟨hd, -, hdescribed⟩ := descriptions_spec (.ofNamespaces ht) hnodes
  exact ⟨attributes d, nodes, rfl, hd.nodup_attributes,
    hdescribed.imp fun _ _ => Describes.mono fun _ _ => hd.expandName?_eq⟩

theorem write_eq_ok {ts : List Triple} {body : String} (h : write t ts = .ok body) :
    ∃ tree, root t ts = .ok tree ∧ body = Xml.document tree := by
  obtain ⟨tree, htree, h⟩ := Scanner.bind_eq_ok.1 h
  cases h
  exact ⟨tree, htree, rfl⟩

/-- Unless the table takes `rdf` for another namespace, names are unambiguous: no prefix is declared
twice, the search for a fresh one ends at the first that is free, every element name stands for the
IRI that it was made from, and an element that leaves out a class is named after it. The one class
whose name does not tell is `descriptionIri`. -/
theorem write_names (ht : t.KeepsRdf) {ts : List Triple} {body : String}
    (h : write t ts = .ok body) :
    (∀ n, n ≤ freshFrom t n ∧ t.get? (freshLabel (freshFrom t n)) = none ∧
      ∀ k, n ≤ k → k < freshFrom t n → (t.get? (freshLabel k)).isSome) ∧
    ∃ declared nodes, body = Xml.document (.element "rdf:RDF" declared nodes) ∧
      (declared.map Prod.fst).Nodup ∧
      List.Forall₂ (fun g node =>
        Describes (fun name iri => expandName? declared name = some iri) g.1 g.2 node)
        (groupBy Triple.subject ts) nodes := by
  obtain ⟨tree, htree, rfl⟩ := write_eq_ok h
  obtain ⟨declared, nodes, rfl, hnodup, hdescribed⟩ := root_spec ht htree
  exact ⟨freshFrom_spec t, declared, nodes, rfl, hnodup, hdescribed⟩

def relay : List Triple :=
  let race : Iri := ⟨"http://e/races/1"⟩
  [⟨race, Vocabulary.rdfType, .iri ⟨"http://e/classes/10"⟩⟩,
    ⟨race, Vocabulary.rdfType, .iri (Vocabulary.schemaName "Event")⟩,
    ⟨race, ⟨"http://e/terms#legs"⟩, .literal (.typed "4" Vocabulary.xsdInteger)⟩,
    ⟨race, Vocabulary.schemaName "name", .literal (.tagged "Staffel" "DE")⟩]

def relayText : String :=
  "<?xml version=\"1.0\" encoding=\"UTF-8\"?>\n" ++
  "<rdf:RDF xmlns:rdf=\"http://www.w3.org/1999/02/22-rdf-syntax-ns#\" " ++
  "xmlns:ns0=\"http://e/taken#\" xmlns:s=\"http://schema.org/\" " ++
  "xmlns:ns1=\"http://e/terms#\">\n" ++
  "  <s:Event rdf:about=\"http://e/races/1\">\n" ++
  "    <rdf:type rdf:resource=\"http://e/classes/10\"/>\n" ++
  "    <ns1:legs rdf:datatype=\"http://www.w3.org/2001/XMLSchema#integer\">4</ns1:legs>\n" ++
  "    <s:name xml:lang=\"de\">Staffel</s:name>\n  </s:Event>\n</rdf:RDF>\n"

def relayTable : Namespaces :=
  (Namespaces.empty.insert "ns0" "http://e/taken#").insert "s" Vocabulary.schema

theorem keepsRdf_relayTable : relayTable.KeepsRdf := by
  intro ns h
  have hnone : relayTable.get? "rdf" = none := by decide +kernel
  cases hnone.symm.trans h

theorem write_relay : write relayTable relay = .ok relayText := by decide +kernel

theorem write_names_relay :
    relayTable.KeepsRdf ∧ write relayTable relay = .ok relayText ∧
    (∀ n, n ≤ freshFrom relayTable n ∧
      relayTable.get? (freshLabel (freshFrom relayTable n)) = none ∧
      ∀ k, n ≤ k → k < freshFrom relayTable n → (relayTable.get? (freshLabel k)).isSome) ∧
    ∃ declared nodes, relayText = Xml.document (.element "rdf:RDF" declared nodes) ∧
      (declared.map Prod.fst).Nodup ∧
      List.Forall₂ (fun g node =>
        Describes (fun name iri => expandName? declared name = some iri) g.1 g.2 node)
        (groupBy Triple.subject relay) nodes :=
  ⟨keepsRdf_relayTable, write_relay, write_names keepsRdf_relayTable write_relay⟩

/-- With `rdf` taken for another namespace the root declares `rdf` twice, and a class that is
`descriptionIri` is left out of an element that does not tell. -/
theorem root_ambiguous :
    (∃ declared nodes,
      root (Namespaces.empty.insert "rdf" "http://e/v#")
        [⟨⟨"http://e/s"⟩, ⟨"http://e/v#p"⟩, .literal (.plain "x")⟩] =
          .ok (.element "rdf:RDF" declared nodes) ∧
      ¬ (declared.map Prod.fst).Nodup) ∧
    root .empty [⟨⟨"http://e/s"⟩, Vocabulary.rdfType, .iri descriptionIri⟩] =
      .ok (.element "rdf:RDF" [("xmlns:rdf", Vocabulary.rdf)]
        [.element "rdf:Description" [("rdf:about", "http://e/s")] []]) := by
  refine ⟨⟨[("xmlns:rdf", Vocabulary.rdf), ("xmlns:rdf", "http://e/v#")],
    [.element "rdf:Description" [("rdf:about", "http://e/s")] [.element "rdf:p" [] [.text "x"]]],
    ?_, by decide⟩, ?_⟩
  · rfl
  · rfl

end LinkedRaces.RdfXml
