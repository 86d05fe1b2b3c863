import LinkedRaces.Format.Results
import LinkedRaces.Graph.Writable
import LinkedRaces.Json.Printer
import LinkedRaces.Query.Execution
import LinkedRaces.Results.Delimited
import LinkedRaces.Xml.Element

/-!
Answers as text, in any of the formats. Graphs have formats of their own. Unbound variables are left
out of the rows of JSON and XML documents.
-/

namespace LinkedRaces.Results

def termJson (t : Term) : Except WriteError Json := do
  t.check
  match t with
  | .iri i => return .object [("type", .string "uri"), ("value", .string i.text)]
  | .literal l =>
    let base := [("type", Json.string "literal"), ("value", .string l.lexical)]
    match l.kind with
    | .plain => return .object base
    | .language tag => return .object (base ++ [("xml:lang", .string tag)])
    | .typed datatype => return .object (base ++ [("datatype", .string datatype.text)])
  | .var name => .error (.unboundVariable name)

def cells {α : Type} (write : Term → Except WriteError α) (vars : List String) (row : Binding) :
    Except WriteError (List (String × α)) :=
  (vars.filterMap fun v => (row.get? v).map (v, ·)).mapM fun (v, t) => do return (v, ← write t)

def rowJson (vars : List String) (row : Binding) : Except WriteError Json := do
  return .object (Dictionary.ofList (← cells termJson vars row)).entries

def json : Answer → Except WriteError Json
  | .solutions vars rows => do
    let rows ← rows.mapM (rowJson vars)
    return .object [("head", .object [("vars", .strings vars)]),
      ("results", .object [("bindings", .array rows)])]
  | .boolean value => .ok (.object [("head", .object []), ("boolean", .bool value)])
  | .graph _ => .error (.incompatible "graph" "json")

def writeJson (a : Answer) : Except WriteError String := do return (← json a).pretty ++ "\n"

open Xml (Node)

def termXml (t : Term) : Except WriteError Node := do
  t.check
  match t with
  | .iri i => return .element "uri" [] [.text i.text]
  | .literal l =>
    let attributes := match l.kind with
      | .plain => []
      | .language tag => [("xml:lang", tag)]
      | .typed datatype => [("datatype", datatype.text)]
    return .element "literal" attributes [.text l.lexical]
  | .var name => .error (.unboundVariable name)

def rowXml (vars : List String) (row : Binding) : Except WriteError Node := do
  let cells ← cells termXml vars row
  return .element "result" [] (cells.map fun (v, node) => .element "binding" [("name", v)] [node])

def rootXml (children : List Node) : Node :=
  .element "sparql" [("xmlns", "http://www.w3.org/2005/sparql-results#")] children

def xml : Answer → Except WriteError Node
  | .solutions vars rows => do
    let head := vars.map fun v => Node.element "variable" [("name", v)] []
    let rows ← rows.mapM (rowXml vars)
    return rootXml [.element "head" [] head, .element "results" [] rows]
  | .boolean value =>
    .ok (rootXml [.element "head" [] [], .element "boolean" [] [.text (toString value)]])
  | .graph _ => .error (.incompatible "graph" "xml")

def writeXml (a : Answer) : Except WriteError String := do return Xml.document (← xml a)

end LinkedRaces.Results

namespace LinkedRaces

def writeAnswer (a : Answer) : ResultsFormat → Except WriteError String
  | .json => Results.writeJson a
  | .xml => Results.writeXml a
  | .csv => Results.Delimited.csv.write a
  | .tsv => Results.Delimited.tsv.write a

end LinkedRaces
