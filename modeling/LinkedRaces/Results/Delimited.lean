import LinkedRaces.Graph.Writable
import LinkedRaces.Query.Execution

/-!
Answers as lines of cells: the variables, then one line for each row, an empty cell for an unbound
variable. Comma-separated cells are quoted where they have to be; tab-separated cells are escaped
instead.
-/

namespace LinkedRaces.Results

inductive Delimited
  | csv | tsv
deriving DecidableEq, Repr, Inhabited

namespace Delimited

def name : Delimited → String
  | csv => "csv"
  | tsv => "tsv"

def separator : Delimited → String
  | csv => ","
  | tsv => "\t"

def lineEnd : Delimited → String
  | csv => "\r\n"
  | tsv => "\n"

def escapeTsvChar : Char → List Char
  | '\\' => ['\\', '\\']
  | '\t' => ['\\', 't']
  | '\n' => ['\\', 'n']
  | '\r' => ['\\', 'r']
  | c => [c]

def cellText : Delimited → Term → String
  | csv, t => t.stringValue
  | tsv, t => String.ofList (t.stringValue.toList.flatMap escapeTsvChar)

def needsQuotes (c : Char) : Bool := c == ',' || c == '"' || c == '\r' || c == '\n'

def quoteChar (c : Char) : List Char := if c = '"' then ['"', '"'] else [c]

def field : Delimited → String → String
  | csv, s =>
    if s.toList.any needsQuotes then "\"" ++ String.ofList (s.toList.flatMap quoteChar) ++ "\""
    else s
  | tsv, s => s

/-- A line of cells. One that would be empty is written as two quotes. -/
def line (d : Delimited) (fields : List String) : String :=
  let text := Text.join d.separator (fields.map d.field)
  (if text.isEmpty then "\"\"" else text) ++ d.lineEnd

def cell (d : Delimited) : Option Term → Except WriteError String
  | some t => do
    t.check
    return d.cellText t
  | none => .ok ""

def row (d : Delimited) (vars : List String) (row : Binding) : Except WriteError String := do
  return d.line (← vars.mapM fun v => d.cell (row.get? v))

def write (d : Delimited) : Answer → Except WriteError String
  | .solutions vars rows => do return String.join (d.line vars :: (← rows.mapM (d.row vars)))
  | .boolean value => .ok (d.line ["boolean"] ++ d.line [toString value])
  | .graph _ => .error (.incompatible "graph" d.name)

end Delimited

end LinkedRaces.Results
