import LinkedRaces.Proofs.Graph.JsonLd
import LinkedRaces.Proofs.Graph.RdfXml.Reading
import LinkedRaces.Proofs.Results.Writer

/-!
Answers read back from their documents. A JSON value and an XML tree each hold the variables in order
and the rows with all that is known of each term, so either of them gives the answer, and the other.
-/

namespace LinkedRaces

namespace Dictionary

variable {β γ : Type} {R : β → γ → Prop}

theorem get?_insertAll (d : Dictionary β) (entries : List (String × β)) (k : String) :
    (d.insertAll entries).get? k = (lookupEntry k entries.reverse).or (d.get? k) := by
  induction entries generalizing d with
  | nil => rfl
  | cons e rest ih =>
    have hlast : lookupEntry k [e] = if k = e.1 then some e.2 else none := by
      simp only [lookupEntry, eq_comm]
    show ((d.insert e.1 e.2).insertAll rest).get? k = _
    rw [ih, get?_insert, List.reverse_cons, lookupEntry_append, Option.or_assoc, hlast]
    split <;> rfl

def Related (R : β → γ → Prop) (e : String × β) (f : String × γ) : Prop := e.1 = f.1 ∧ R e.2 f.2

theorem related_insertEntry {es : List (String × β)} {fs : List (String × γ)}
    (h : List.Forall₂ (Related R) es fs) {e : String × β} {f : String × γ} (hnew : Related R e f) :
    List.Forall₂ (Related R) (insertEntry e.1 e.2 es) (insertEntry f.1 f.2 fs) := by
  obtain ⟨k, v⟩ := e
  obtain ⟨_, w⟩ := f
  obtain ⟨rfl, hvalue⟩ := hnew
  induction h with
  | nil => exact .cons ⟨rfl, hvalue⟩ .nil
  | @cons e f es fs hfirst hrest ih =>
    obtain ⟨k', v'⟩ := e
    obtain ⟨_, w'⟩ := f
    obtain ⟨rfl, hvalue'⟩ := hfirst
    by_cases hk : k' = k
    · simpa [insertEntry, hk] using ⟨⟨rfl, hvalue⟩, hrest⟩
    · simpa [insertEntry, hk] using ⟨⟨rfl, hvalue'⟩, ih⟩

theorem related_insertAll {es : List (String × β)} {fs : List (String × γ)}
    (h : List.Forall₂ (Related R) es fs) {d : Dictionary β} {d' : Dictionary γ}
    (hd : List.Forall₂ (Related R) d.entries d'.entries) :
    List.Forall₂ (Related R) (d.insertAll es).entries (d'.insertAll fs).entries := by
  induction h generalizing d d' with
  | nil => exact hd
  | @cons e f es fs hfirst _ ih =>
    have hnext : List.Forall₂ (Related R) (d.insert e.1 e.2).entries (d'.insert f.1 f.2).entries :=
      related_insertEntry hd hfirst
    exact ih hnext

theorem related_ofList {es : List (String × β)} {fs : List (String × γ)}
    (h : List.Forall₂ (Related R) es fs) :
    List.Forall₂ (Related R) (ofList es).entries (ofList fs).entries :=
  related_insertAll h .nil

theorem ofList_entries (d : Dictionary β) : ofList d.entries = d := insertAll_empty d

end Dictionary

def boundValues (vars : List String) (row : Binding) : List (String × Term) :=
  vars.filterMap fun v => (row.get? v).map (v, ·)

theorem lookupEntry_boundValues (vars : List String) (row : Binding) (k : String) :
    Dictionary.lookupEntry k (boundValues vars row) = if k ∈ vars then row.get? k else none := by
  induction vars with
  | nil => rfl
  | cons v vars ih =>
    unfold boundValues at ih ⊢
    by_cases hk : v = k
    · subst hk
      cases hv : row.get? v with
      | none => simpa [hv] using ih
      | some value => simp [hv, Dictionary.lookupEntry]
    · have hmem : k ∈ v :: vars ↔ k ∈ vars := by simp [Ne.symm hk]
      cases hv : row.get? v with
      | none => simpa [hv, hmem] using ih
      | some value => simpa [hv, hmem, Dictionary.lookupEntry, hk] using ih

theorem get?_narrow (vars : List String) (row : Binding) (k : String) :
    (narrow vars row).get? k = if k ∈ vars then row.get? k else none := by
  have hreverse : (boundValues vars row).reverse = boundValues vars.reverse row :=
    List.filterMap_reverse.symm
  show (Dictionary.empty.insertAll (boundValues vars row)).get? k = _
  rw [Dictionary.get?_insertAll, hreverse, lookupEntry_boundValues]
  simp

theorem narrow_narrow (vars : List String) (row : Binding) :
    narrow vars (narrow vars row) = narrow vars row := by
  have hvalues : boundValues vars (narrow vars row) = boundValues vars row :=
    List.filterMap_congr fun v hv => by rw [get?_narrow, if_pos hv]
  exact congrArg Dictionary.ofList hvalues

theorem Query.narrow_of_execute {q : Query} {s : Store} {vars : List String} {rows : List Binding}
    (h : q.execute s = .solutions vars rows) : rows.map (narrow vars) = rows := by
  unfold execute at h
  split at h
  next p hform =>
    obtain ⟨rfl, rfl⟩ := Answer.solutions.inj h
    rw [List.map_map]
    exact List.map_congr_left fun row _ => narrow_narrow _ row
  all_goals cases h

namespace Results

open Dictionary (lookupEntry Related)

variable {vars : List String} {rows : List Binding} {row : Binding}

theorem related_cells {α : Type} {write : Term → Except WriteError α} {cs : List (String × α)}
    (h : cells write vars row = .ok cs) :
    List.Forall₂ (Related fun t v => write t = .ok v) (boundValues vars row) cs := by
  refine (forall₂_of_mapM_eq_ok h).imp ?_
  rintro ⟨name, t⟩ c hc
  obtain ⟨v, hv, hc⟩ := Scanner.bind_eq_ok.1 hc
  cases hc
  exact ⟨rfl, hv⟩

namespace Json

open JsonLd (fields? text?)

def items? : Json → Option (List Json)
  | .array items => some items
  | _ => none

def literal? (text : String) (fields : List (String × Json)) : Option Literal :=
  match lookupEntry "xml:lang" fields, lookupEntry "datatype" fields with
  | some tag, none => (text? tag).map (.tagged text)
  | none, some datatype => (text? datatype).map fun iri => .typed text ⟨iri⟩
  | none, none => some (.plain text)
  | some _, some _ => none

def term? (value : Json) : Option Term := do
  let fields ← fields? value
  let kind ← (lookupEntry "type" fields).bind text?
  let text ← (lookupEntry "value" fields).bind text?
  if kind = "uri" then return .iri ⟨text⟩
  else if kind = "literal" then return .literal (← literal? text fields)
  else none

def cell? (field : String × Json) : Option (String × Term) := (term? field.2).map (field.1, ·)

def row? (value : Json) : Option Binding := do
  return Dictionary.ofList (← (← fields? value).mapM cell?)

def table? (value : Json) : Option (List String × List Binding) := do
  let fields ← fields? value
  let head ← (lookupEntry "head" fields).bind fields?
  let vars ← (lookupEntry "vars" head).bind items?
  let results ← (lookupEntry "results" fields).bind fields?
  let rows ← (lookupEntry "bindings" results).bind items?
  return (← vars.mapM text?, ← rows.mapM row?)

theorem term?_eq {t : Term} {value : Json} (h : termJson t = .ok value) : term? value = some t := by
  obtain ⟨_, -, h⟩ := Scanner.bind_eq_ok.1 h
  cases t with
  | iri i =>
    cases h
    simp [term?, fields?, lookupEntry, text?]
  | var name => cases h
  | literal l =>
    dsimp only at h
    split at h
    next hk =>
      cases h
      simp [term?, fields?, literal?, lookupEntry, text?, Literal.plain_eq hk]
    next tag hk =>
      cases h
      simp [term?, fields?, literal?, lookupEntry, text?, Literal.tagged_eq hk]
    next datatype hk =>
      cases h
      simp [term?, fields?, literal?, lookupEntry, text?, Literal.typed_eq hk]

theorem row?_eq {value : Json} (h : rowJson vars row = .ok value) :
    row? value = some (narrow vars row) := by
  obtain ⟨cs, hcs, h⟩ := Scanner.bind_eq_ok.1 h
  cases h
  have hread : (Dictionary.ofList cs).entries.mapM cell? = some (narrow vars row).entries := by
    refine mapM_eq_some ((Dictionary.related_ofList (related_cells hcs)).flip.imp ?_)
    rintro ⟨name, v⟩ ⟨_, t⟩ ⟨rfl, ht⟩
    simp [cell?, term?_eq ht]
  simp [row?, fields?, (Dictionary.ofList cs).nodup, hread, Dictionary.ofList_entries]

theorem table?_eq {value : Json} (h : json (.solutions vars rows) = .ok value) :
    table? value = some (vars, rows.map (narrow vars)) := by
  obtain ⟨items, hitems, h⟩ := Scanner.bind_eq_ok.1 h
  cases h
  have hvars : (vars.map Json.string).mapM text? = some vars :=
    mapM_eq_some (List.forall₂_map_left_iff.2 (List.forall₂_same.2 fun _ _ => rfl))
  have hrows : items.mapM row? = some (rows.map (narrow vars)) := by
    refine mapM_eq_some (List.forall₂_map_right_iff.2 ?_)
    exact (forall₂_of_mapM_eq_ok hitems).flip.imp fun _ _ => row?_eq
  simp [table?, fields?, lookupEntry, items?, Json.strings, hvars, hrows]

end Json

namespace Xml

open LinkedRaces.Xml (Node)
open RdfXml (textContent?)

def literalOf (attributes : List (String × String)) (text : String) : Literal :=
  match lookupEntry "datatype" attributes, lookupEntry "xml:lang" attributes with
  | some datatype, _ => .typed text ⟨datatype⟩
  | none, some tag => .tagged text tag
  | none, none => .plain text

def term? : Node → Option Term
  | .text _ => none
  | .element name attributes children => do
    let text ← textContent? children
    if name = "uri" then return .iri ⟨text⟩
    else if name = "literal" then return .literal (literalOf attributes text)
    else none

def name? (element : String) : Node → Option String
  | .text _ => none
  | .element name attributes _ => if name = element then lookupEntry "name" attributes else none

def children? (element : String) : Node → Option (List Node)
  | .text _ => none
  | .element name _ children => if name = element then some children else none

def cell? (node : Node) : Option (String × Term) := do
  let var ← name? "binding" node
  match ← children? "binding" node with
  | [value] => return (var, ← term? value)
  | _ => none

def row? (node : Node) : Option Binding := do
  return Dictionary.ofList (← (← children? "result" node).mapM cell?)

def table? (root : Node) : Option (List String × List Binding) := do
  match ← children? "sparql" root with
  | [head, results] =>
    let vars ← (← children? "head" head).mapM (name? "variable")
    return (vars, ← (← children? "results" results).mapM row?)
  | _ => none

theorem term?_eq {t : Term} {node : Node} (h : termXml t = .ok node) : term? node = some t := by
  obtain ⟨_, -, h⟩ := Scanner.bind_eq_ok.1 h
  cases t with
  | iri i =>
    cases h
    simp [term?, textContent?]
  | var name => cases h
  | literal l =>
    cases h
    cases hk : l.kind with
    | plain => simp [term?, textContent?, literalOf, lookupEntry, Literal.plain_eq hk]
    | language tag => simp [term?, textContent?, literalOf, lookupEntry, Literal.tagged_eq hk]
    | typed datatype => simp [term?, textContent?, literalOf, lookupEntry, Literal.typed_eq hk]

theorem row?_eq {node : Node} (h : rowXml vars row = .ok node) :
    row? node = some (narrow vars row) := by
  obtain ⟨cs, hcs, h⟩ := Scanner.bind_eq_ok.1 h
  cases h
  have hread : (cs.map fun c => Node.element "binding" [("name", c.1)] [c.2]).mapM cell? =
      some (boundValues vars row) := by
    refine mapM_eq_some (List.forall₂_map_left_iff.2 ((related_cells hcs).flip.imp ?_))
    rintro ⟨name, value⟩ ⟨_, t⟩ ⟨rfl, ht⟩
    simp [cell?, name?, children?, lookupEntry, term?_eq ht]
  show row? (.element "result" [] (cs.map fun c => .element "binding" [("name", c.1)] [c.2])) = _
  simp only [row?, children?, if_true, Option.bind_eq_bind, Option.bind_some, hread]
  rfl

theorem table?_eq {root : Node} (h : xml (.solutions vars rows) = .ok root) :
    table? root = some (vars, rows.map (narrow vars)) := by
  obtain ⟨nodes, hnodes, h⟩ := Scanner.bind_eq_ok.1 h
  cases h
  have hvars : (vars.map fun v => Node.element "variable" [("name", v)] []).mapM
      (name? "variable") = some vars :=
    mapM_eq_some (List.forall₂_map_left_iff.2 (List.forall₂_same.2 fun _ _ => by
      simp [name?, lookupEntry]))
  have hrows : nodes.mapM row? = some (rows.map (narrow vars)) := by
    refine mapM_eq_some (List.forall₂_map_right_iff.2 ?_)
    exact (forall₂_of_mapM_eq_ok hnodes).flip.imp fun _ _ => row?_eq
  simp [table?, rootXml, children?, hvars, hrows]

end Xml

theorem exists_json (vars : List String) (h : ∀ row ∈ rows, row.Checked) :
    ∃ v, json (.solutions vars rows) = .ok v := by
  obtain ⟨body, hbody⟩ : ∃ body, writeAnswer (.solutions vars rows) .json = .ok body :=
    exists_writeAnswer_solutions h .json
  obtain ⟨v, hv, -⟩ := Scanner.bind_eq_ok.1 hbody
  exact ⟨v, hv⟩

theorem exists_xml (vars : List String) (h : ∀ row ∈ rows, row.Checked) :
    ∃ v, xml (.solutions vars rows) = .ok v := by
  obtain ⟨body, hbody⟩ : ∃ body, writeAnswer (.solutions vars rows) .xml = .ok body :=
    exists_writeAnswer_solutions h .xml
  obtain ⟨v, hv, -⟩ := Scanner.bind_eq_ok.1 hbody
  exact ⟨v, hv⟩

/-- Both documents of a selection hold its variables and its rows, and no other selection has either
document. -/
theorem documents_of_execute {q : Query} {s : Store} (h : q.execute s = .solutions vars rows)
    (hrows : ∀ row ∈ rows, row.Checked) :
    ∃ value root, json (.solutions vars rows) = .ok value ∧ xml (.solutions vars rows) = .ok root ∧
      Json.table? value = some (vars, rows) ∧ Xml.table? root = some (vars, rows) ∧
      ∀ q' s' vars' rows', Query.execute q' s' = .solutions vars' rows' →
        (json (.solutions vars' rows') = .ok value ↔ vars' = vars ∧ rows' = rows) ∧
        (xml (.solutions vars' rows') = .ok root ↔ vars' = vars ∧ rows' = rows) := by
  obtain ⟨value, hvalue⟩ := exists_json vars hrows
  obtain ⟨root, hroot⟩ := exists_xml vars hrows
  have hnarrow := Query.narrow_of_execute h
  have hjson : Json.table? value = some (vars, rows) := hnarrow ▸ Json.table?_eq hvalue
  have hxml : Xml.table? root = some (vars, rows) := hnarrow ▸ Xml.table?_eq hroot
  refine ⟨value, root, hvalue, hroot, hjson, hxml, fun q' s' vars' rows' h' => ⟨⟨fun hother => ?_, ?_⟩,
    ⟨fun hother => ?_, ?_⟩⟩⟩
  · have hread := Json.table?_eq hother
    rw [Query.narrow_of_execute h', hjson] at hread
    simpa [eq_comm] using hread
  · rintro ⟨rfl, rfl⟩
    exact hvalue
  · have hread := Xml.table?_eq hother
    rw [Query.narrow_of_execute h', hxml] at hread
    simpa [eq_comm] using hread
  · rintro ⟨rfl, rfl⟩
    exact hroot

def runners : Store :=
  ⟨[⟨⟨"http://e/a"⟩, ⟨"http://e/name"⟩, .literal (.plain "Ann")⟩,
    ⟨⟨"http://e/a"⟩, ⟨"http://e/note"⟩, .literal (.tagged "rapide" "fr")⟩,
    ⟨⟨"http://e/a"⟩, ⟨"http://e/age"⟩, .literal (.typed "31" ⟨"http://e/int"⟩)⟩,
    ⟨⟨"http://e/b"⟩, ⟨"http://e/name"⟩, .literal (.plain "Bo")⟩]⟩

def people : Query where
  form := .select (.vars ["s", "age", "note", "name"])
  group :=
    ⟨[⟨.var "s", .iri ⟨"http://e/name"⟩, .var "name"⟩],
      [⟨[⟨.var "s", .iri ⟨"http://e/note"⟩, .var "note"⟩], []⟩,
        ⟨[⟨.var "s", .iri ⟨"http://e/age"⟩, .var "age"⟩], []⟩], []⟩
  modifiers := .ofLimit defaultLimit
  namespaces := .wellKnown

theorem documents_of_execute_people :
    let rows : List Binding :=
      [Dictionary.ofList [("s", .iri ⟨"http://e/a"⟩),
          ("age", .literal (.typed "31" ⟨"http://e/int"⟩)),
          ("note", .literal (.tagged "rapide" "fr")), ("name", .literal (.plain "Ann"))],
        Dictionary.ofList [("s", .iri ⟨"http://e/b"⟩), ("name", .literal (.plain "Bo"))]]
    let answer := Answer.solutions ["s", "age", "note", "name"] rows
    people.execute runners = answer ∧ (∀ row ∈ rows, row.Checked) ∧
      ∃ value root, json answer = .ok value ∧ xml answer = .ok root ∧
        Json.table? value = some (["s", "age", "note", "name"], rows) ∧
        Xml.table? root = some (["s", "age", "note", "name"], rows) := by
  intro rows answer
  have hanswer : people.execute runners = answer := by
    have hsorted : applyOrder [] (runners.solve people.group) = runners.solve people.group :=
      List.mergeSort_of_pairwise (by decide +kernel)
    calc people.execute runners
        = .solutions ["s", "age", "note", "name"]
            (((applyOrder [] (runners.solve people.group)).take defaultLimit).map
              (narrow ["s", "age", "note", "name"])) := rfl
      _ = answer := by rw [hsorted]; decide +kernel
  have hchecked : ∀ row ∈ rows, ∀ e ∈ row.entries, e.2.check = .ok () := by decide +kernel
  obtain ⟨value, root, hvalue, hroot, hjson, hxml, -⟩ := documents_of_execute hanswer hchecked
  exact ⟨hanswer, hchecked, value, root, hvalue, hroot, hjson, hxml⟩

end Results

end LinkedRaces
