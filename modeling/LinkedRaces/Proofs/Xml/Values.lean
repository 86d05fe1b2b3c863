import LinkedRaces.Proofs.Graph.RdfXml.Elements
import LinkedRaces.Proofs.Results.Documents
import LinkedRaces.Proofs.Xml.Reading

/-!
The values in written documents. Each literal of a graph and each value of an answer is the content
of an element of the document, with its language tag or datatype as the attribute, so what a reader
makes of texts and attributes is what it makes of the values of the document.
-/

namespace LinkedRaces

theorem exists_mem_of_forall₂ {α β : Type} {R : α → β → Prop} {xs : List α} {ys : List β}
    (h : List.Forall₂ R xs ys) {x : α} (hx : x ∈ xs) : ∃ y ∈ ys, R x y := by
  induction h with
  | nil => cases hx
  | cons hfirst _ ih =>
    rcases List.mem_cons.1 hx with rfl | hx
    · exact ⟨_, List.mem_cons_self, hfirst⟩
    · obtain ⟨y, hy, hxy⟩ := ih hx
      exact ⟨y, List.mem_cons_of_mem _ hy, hxy⟩

def Term.annotations : Term → List String
  | .literal l =>
    match l.kind with
    | .plain => []
    | .language tag => [tag]
    | .typed datatype => [datatype.text]
  | _ => []

namespace Xml

def valueElement (name : String) (attributes : List (String × String)) (value : String) : String :=
  "<" ++ name ++ String.join (attributes.map attributeText) ++ ">" ++ escape value ++
    "</" ++ name ++ ">"

def HasElement (body value : String) (annotations : List String) : Prop :=
  ∃ name attributes, attributes.map Prod.snd = annotations ∧
    (valueElement name attributes value).toList <:+: body.toList

theorem infix_lines_text (depth : Nat) (name : String) (attributes : List (String × String))
    (value : String) :
    (valueElement name attributes value).toList <:+:
      (Node.lines depth (.element name attributes [.text value])).toList := by
  refine ⟨(indent depth).toList, ['\n'], ?_⟩
  simp [Node.lines, valueElement, Node.inlineText, Node.isText]

theorem infix_childLines {child : Node} {children : List Node} (h : child ∈ children) (depth : Nat) :
    (child.lines depth).toList <:+: (Node.childLines depth children).toList := by
  induction h with
  | head rest =>
    simp only [Node.childLines, String.toList_append]
    exact (List.prefix_append _ _).isInfix
  | tail _ _ ih =>
    simp only [Node.childLines, String.toList_append]
    exact ih.trans (List.suffix_append _ _).isInfix

theorem infix_lines_child {child : Node} {children : List Node} (h : child ∈ children)
    (helement : child.isText = false) (depth : Nat) (name : String)
    (attributes : List (String × String)) :
    (child.lines (depth + 1)).toList <:+:
      (Node.lines depth (.element name attributes children)).toList := by
  have hnonempty : children.isEmpty = false := by
    cases h <;> rfl
  have hmixed : children.all Node.isText = false :=
    List.all_eq_false.2 ⟨child, h, by simp [helement]⟩
  refine (infix_childLines h (depth + 1)).trans ?_
  refine ⟨(indent depth ++ "<" ++ name ++ String.join (attributes.map attributeText) ++ ">\n").toList,
    (indent depth ++ "</" ++ name ++ ">\n").toList, ?_⟩
  simp [Node.lines, hnonempty, hmixed]

theorem infix_document (root : Node) : (root.lines 0).toList <:+: (document root).toList := by
  unfold document
  generalize root.lines 0 = text
  rw [String.toList_append]
  exact (List.suffix_append _ _).isInfix

end Xml

namespace RdfXml

open Xml (Node HasElement)

variable {t : Namespaces} {d d' : Declarations} {x : Triple}

theorem annotations_literal (l : Literal) :
    (objectAttributes (.literal l)).map Prod.snd = (Term.literal l).annotations := by
  cases hk : l.kind <;> simp [objectAttributes, Term.annotations, hk]

theorem exists_of_property {node : Node} (h : property t d x = .ok (node, d')) :
    ∃ name, node = .element name (objectAttributes x.object) (objectContent x.object) := by
  unfold property at h
  split at h
  next => cases h
  next name d₁ hname =>
    split at h
    next i hobject =>
      cases h
      exact ⟨name, by rw [hobject]; rfl⟩
    next l hobject =>
      cases h
      exact ⟨name, by rw [hobject]; rfl⟩
    next => cases h

theorem exists_of_mem_properties {xs : List Triple} {nodes : List Node}
    (h : properties t d xs = .ok (nodes, d')) (hx : x ∈ xs) :
    ∃ name, .element name (objectAttributes x.object) (objectContent x.object) ∈ nodes := by
  induction xs generalizing d nodes with
  | nil => cases hx
  | cons y xs ih =>
    obtain ⟨⟨node, d₁⟩, hnode, h⟩ := Scanner.bind_eq_ok.1 h
    obtain ⟨⟨rest, d₂⟩, hrest, h⟩ := Scanner.bind_eq_ok.1 h
    cases h
    rcases List.mem_cons.1 hx with rfl | hx
    · obtain ⟨name, rfl⟩ := exists_of_property hnode
      exact ⟨name, List.mem_cons_self⟩
    · obtain ⟨name, hmem⟩ := ih hrest hx
      exact ⟨name, List.mem_cons_of_mem _ hmem⟩

theorem mem_of_splitClass {xs rest : List Triple} {name : String}
    (h : splitClass t d xs = some (name, d', rest)) (hx : x ∈ xs) (hclass : x.class? = none) :
    x ∈ rest := by
  induction xs generalizing rest with
  | nil => cases h
  | cons y xs ih =>
    rw [splitClass] at h
    split at h
    next name₁ d₁ hsplit =>
      cases h
      rcases List.mem_cons.1 hx with rfl | hx
      · rw [hclass] at hsplit
        cases hsplit
      · exact hx
    next =>
      obtain ⟨⟨name₁, d₁, rest₁⟩, hsplit, heq⟩ := Option.map_eq_some_iff.1 h
      cases heq
      rcases List.mem_cons.1 hx with rfl | hx
      · exact List.mem_cons_self
      · exact List.mem_cons_of_mem _ (ih hsplit hx)

theorem exists_of_description {subject : Iri} {xs : List Triple} {node : Node}
    (h : description t d subject xs = .ok (node, d')) (hx : x ∈ xs) (hclass : x.class? = none) :
    ∃ name attributes nodes, node = .element name attributes nodes ∧
      ∃ property, .element property (objectAttributes x.object) (objectContent x.object) ∈ nodes := by
  have hrest : x ∈ ((splitClass t d xs).getD ("rdf:Description", d, xs)).2.2 := by
    cases hsplit : splitClass t d xs with
    | none => exact hx
    | some found => exact mem_of_splitClass hsplit hx hclass
  obtain ⟨⟨nodes, d₁⟩, hnodes, h⟩ := Scanner.bind_eq_ok.1 h
  cases h
  exact ⟨_, _, nodes, rfl, exists_of_mem_properties hnodes hrest⟩

theorem exists_of_descriptions {gs : List (Iri × List Triple)} {nodes : List Node}
    (h : descriptions t d gs = .ok (nodes, d')) {g : Iri × List Triple} (hg : g ∈ gs) :
    ∃ node ∈ nodes, ∃ d₁ d₂, description t d₁ g.1 g.2 = .ok (node, d₂) := by
  induction gs generalizing d nodes with
  | nil => cases hg
  | cons g' gs ih =>
    obtain ⟨⟨node, d₁⟩, hnode, h⟩ := Scanner.bind_eq_ok.1 h
    obtain ⟨⟨rest, d₂⟩, hrest, h⟩ := Scanner.bind_eq_ok.1 h
    cases h
    rcases List.mem_cons.1 hg with rfl | hg
    · exact ⟨node, List.mem_cons_self, d, d₁, hnode⟩
    · obtain ⟨found, hmem, hfound⟩ := ih hrest hg
      exact ⟨found, List.mem_cons_of_mem _ hmem, hfound⟩

theorem hasElement_of_write {ts : List Triple} {body : String} (h : write t ts = .ok body)
    (hx : x ∈ ts) {l : Literal} (hl : x.object = .literal l) :
    HasElement body l.lexical (Term.literal l).annotations := by
  obtain ⟨tree, htree, rfl⟩ := write_eq_ok h
  obtain ⟨_, -, htree⟩ := Scanner.bind_eq_ok.1 htree
  obtain ⟨⟨nodes, d⟩, hnodes, htree⟩ := Scanner.bind_eq_ok.1 htree
  cases htree
  have hclass : x.class? = none := by simp [Triple.class?, hl]
  have hmem : x ∈ (groupBy Triple.subject ts).flatMap Prod.snd :=
    (perm_flatMap_groupBy Triple.subject ts).mem_iff.2 hx
  obtain ⟨g, hg, hxg⟩ := List.mem_flatMap.1 hmem
  obtain ⟨node, hnode, d₁, d₂, hdescription⟩ := exists_of_descriptions hnodes hg
  obtain ⟨name, attributes, children, rfl, property, hproperty⟩ :=
    exists_of_description hdescription hxg hclass
  rw [hl] at hproperty
  refine ⟨property, objectAttributes (.literal l), annotations_literal l, ?_⟩
  -- a property stands in a description, and the description in the root
  exact (Xml.infix_lines_text 2 property _ l.lexical).trans <|
    (Xml.infix_lines_child hproperty rfl 1 name attributes).trans <|
    (Xml.infix_lines_child hnode rfl 0 _ _).trans (Xml.infix_document _)

end RdfXml

namespace Results

open LinkedRaces.Xml (Node HasElement infix_lines_text infix_lines_child infix_document)

variable {vars : List String} {rows : List Binding}

theorem exists_of_termXml {term : Term} {node : Node} (h : termXml term = .ok node) :
    ∃ name attributes, attributes.map Prod.snd = term.annotations ∧
      node = .element name attributes [.text term.stringValue] := by
  obtain ⟨_, -, h⟩ := Scanner.bind_eq_ok.1 h
  cases term with
  | iri i =>
    cases h
    exact ⟨"uri", [], rfl, rfl⟩
  | var name => cases h
  | literal l =>
    cases h
    refine ⟨"literal", _, ?_, rfl⟩
    cases hk : l.kind <;> simp [Term.annotations, hk]

theorem mem_boundValues {row : Binding} {v : String} (hv : v ∈ vars) {term : Term}
    (hterm : row.get? v = some term) : (v, term) ∈ boundValues vars row :=
  List.mem_filterMap.2 ⟨v, hv, by rw [hterm]; rfl⟩

theorem exists_of_rowXml {row : Binding} {node : Node} (h : rowXml vars row = .ok node)
    {v : String} (hv : v ∈ vars) {term : Term} (hterm : row.get? v = some term) :
    ∃ value nodes, termXml term = .ok value ∧ node = .element "result" [] nodes ∧
      .element "binding" [("name", v)] [value] ∈ nodes := by
  obtain ⟨cs, hcs, h⟩ := Scanner.bind_eq_ok.1 h
  cases h
  obtain ⟨⟨name, value⟩, hcell, rfl, hvalue⟩ :=
    exists_mem_of_forall₂ (related_cells hcs) (mem_boundValues hv hterm)
  exact ⟨value, _, hvalue, rfl, List.mem_map_of_mem hcell⟩

theorem hasElement_of_writeXml {body : String}
    (h : writeAnswer (.solutions vars rows) .xml = .ok body) {row : Binding} (hrow : row ∈ rows)
    {v : String} (hv : v ∈ vars) {term : Term} (hterm : row.get? v = some term) :
    HasElement body term.stringValue term.annotations := by
  obtain ⟨root, hroot, h⟩ := Scanner.bind_eq_ok.1 h
  cases h
  obtain ⟨nodes, hnodes, hroot⟩ := Scanner.bind_eq_ok.1 hroot
  cases hroot
  obtain ⟨node, hnode, hrowXml⟩ := exists_mem_of_forall₂ (forall₂_of_mapM_eq_ok hnodes) hrow
  obtain ⟨value, cells, hvalue, rfl, hcell⟩ := exists_of_rowXml hrowXml hv hterm
  obtain ⟨name, attributes, hattributes, rfl⟩ := exists_of_termXml hvalue
  refine ⟨name, attributes, hattributes, ?_⟩
  -- a value stands in a cell, a cell in a row, and a row in the second part of the document
  exact (infix_lines_text 4 name attributes _).trans <|
    (infix_lines_child List.mem_cons_self rfl 3 _ _).trans <|
    (infix_lines_child hcell rfl 2 _ _).trans <|
    (infix_lines_child hnode rfl 1 _ _).trans <|
    (infix_lines_child (List.mem_cons_of_mem _ List.mem_cons_self) rfl 0 _ _).trans
      (infix_document _)

end Results

namespace Xml

structure Legible (value : String) (annotations : List String) : Prop where
  text : value.toList.all isChar
  returnless : '\r' ∉ value.toList
  attributes : ∀ a ∈ annotations, a.toList.all isChar

structure ReadsBack (value : String) (annotations : List String) : Prop where
  text : readText? (escape value) = some value
  attributes : ∀ a ∈ annotations, readAttribute? (escapeAttribute a) = some a

theorem readsBack_iff_legible {value : String} {annotations : List String} :
    ReadsBack value annotations ↔ Legible value annotations := by
  have hattribute (a : String) :
      readAttribute? (escapeAttribute a) = some a ↔ a.toList.all isChar := by
    rw [readAttribute?_escapeAttribute]
    split <;> simp_all
  constructor
  · intro h
    obtain ⟨hlegal, hreturn⟩ := readText?_escape_eq_self_iff.1 h.text
    exact ⟨hlegal, hreturn, fun a ha => (hattribute a).1 (h.attributes a ha)⟩
  · intro h
    exact ⟨readText?_escape_eq_self_iff.2 ⟨h.text, h.returnless⟩,
      fun a ha => (hattribute a).2 (h.attributes a ha)⟩

/-- What a reader makes of a value, and that each value of a written document is one of these. A
character that is not legal makes the text or the attribute unreadable; an attribute is otherwise
read as it was, and a text with its line ends normalized. So the values of a document that read back
are those of legal characters without a carriage return in the text. -/
theorem values_of_documents (t : Namespaces) (ts : List Triple) (vars : List String)
    {rows : List Binding} (hrows : ∀ row ∈ rows, row.Checked) :
    (∀ s,
      readText? (escape s) =
        (if s.toList.all isChar then some (String.ofList (normalizeLineEnds s.toList)) else none) ∧
      readAttribute? (escapeAttribute s) = if s.toList.all isChar then some s else none) ∧
    (∀ body, RdfXml.write t ts = .ok body → ∀ x ∈ ts, ∀ l, x.object = .literal l →
      HasElement body l.lexical x.object.annotations ∧
        (ReadsBack l.lexical x.object.annotations ↔ Legible l.lexical x.object.annotations)) ∧
    ∃ body, writeAnswer (.solutions vars rows) .xml = .ok body ∧
      ∀ row ∈ rows, ∀ v ∈ vars, ∀ term, row.get? v = some term →
        HasElement body term.stringValue term.annotations ∧
          (ReadsBack term.stringValue term.annotations ↔
            Legible term.stringValue term.annotations) := by
  refine ⟨fun s => ⟨readText?_escape s, readAttribute?_escapeAttribute s⟩, ?_, ?_⟩
  · intro body h x hx l hl
    rw [hl]
    exact ⟨RdfXml.hasElement_of_write h hx hl, readsBack_iff_legible⟩
  · obtain ⟨body, hbody⟩ : ∃ body, writeAnswer (.solutions vars rows) .xml = .ok body :=
      exists_writeAnswer_solutions hrows .xml
    exact ⟨body, hbody, fun row hrow v hv term hterm =>
      ⟨Results.hasElement_of_writeXml hbody hrow hv hterm, readsBack_iff_legible⟩⟩

def notes : List Triple :=
  [⟨⟨"http://e/s"⟩, ⟨"http://e/v#p"⟩, .literal (.tagged "1 < 2 &\n\t]]>" "en")⟩,
    ⟨⟨"http://e/s"⟩, ⟨"http://e/v#p"⟩, .literal (.plain "a\rb")⟩]

theorem values_of_documents_notes :
    let row : Binding := Dictionary.ofList [("x", .literal (.plain "a\rb"))]
    (∀ r ∈ [row], r.Checked) ∧
    (∃ body, RdfXml.write .empty notes = .ok body ∧
      HasElement body "1 < 2 &\n\t]]>" ["en"] ∧ ReadsBack "1 < 2 &\n\t]]>" ["en"] ∧
      HasElement body "a\rb" [] ∧ ¬ ReadsBack "a\rb" []) ∧
    ∃ body, writeAnswer (.solutions ["x"] [row]) .xml = .ok body ∧ HasElement body "a\rb" [] := by
  intro row
  have hchecked : ∀ r ∈ [row], ∀ e ∈ r.entries, e.2.check = .ok () := by decide +kernel
  obtain ⟨-, hgraph, text, htext, hvalue⟩ := values_of_documents .empty notes ["x"] hchecked
  have hbody : ∃ body, RdfXml.write .empty notes = .ok body := ⟨_, rfl⟩
  obtain ⟨body, hbody⟩ := hbody
  obtain ⟨hfirst, hreads⟩ := hgraph body hbody _ List.mem_cons_self _ rfl
  obtain ⟨hsecond, hbroken⟩ := hgraph body hbody _
    (List.mem_cons_of_mem _ List.mem_cons_self) _ rfl
  have hlegible : Legible "1 < 2 &\n\t]]>" ["en"] := ⟨by decide, by decide, by decide⟩
  refine ⟨hchecked, ⟨body, hbody, hfirst, hreads.2 hlegible, hsecond, fun h => ?_⟩, text, htext, ?_⟩
  · exact absurd (hbroken.1 h).returnless (by decide)
  · exact (hvalue row List.mem_cons_self "x" List.mem_cons_self _ rfl).1

def brokenText : String :=
  "<?xml version=\"1.0\" encoding=\"UTF-8\"?>\n" ++
  "<rdf:RDF xmlns:rdf=\"http://www.w3.org/1999/02/22-rdf-syntax-ns#\" xmlns:ns0=\"http://e/v#\">\n" ++
  "  <rdf:Description rdf:about=\"http://e/s\">\n    <ns0:p>a\rb</ns0:p>\n" ++
  "  </rdf:Description>\n</rdf:RDF>\n"

/-- A carriage return in a text is written as such, so that a reader finds a line feed; in an
attribute it comes back. A control character is written as such too, and nothing is found. -/
theorem carriage_return_replaced :
    let broken : Triple := ⟨⟨"http://e/s"⟩, ⟨"http://e/v#p"⟩, .literal (.plain "a\rb")⟩
    let control : Term := .literal (.plain "\x01")
    broken.check = .ok () ∧ RdfXml.write .empty [broken] = .ok brokenText ∧
      readText? (escape "a\rb") = some "a\nb" ∧
      readAttribute? (escapeAttribute "a\rb") = some "a\rb" ∧
      control.check = .ok () ∧ readText? (escape "\x01") = none := by
  decide +kernel

end Xml

end LinkedRaces
