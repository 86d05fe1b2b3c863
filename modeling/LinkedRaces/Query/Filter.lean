import LinkedRaces.Query.Parser.Filters
import LinkedRaces.Query.Values

/-!
Filters under a row. What touches an unbound variable has no value, and a filter without a value
rejects the row; only `bound` looks at unbound variables, and the connectives may do without one
side.
-/

namespace LinkedRaces

inductive FilterValue
  | term (t : Term)
  | bool (b : Bool)
deriving DecidableEq, Repr

namespace FilterValue

def text : FilterValue → String
  | term t => t.stringValue
  | bool true => "true"
  | bool false => "false"

/-- Whether a literal counts as true: a boolean by its spelling, a typed number unless it is zero,
any other unless it is empty. -/
def literalTruth (l : Literal) : Bool :=
  if l.datatype? = some Vocabulary.xsdBoolean then l.lexical == "true" || l.lexical == "1"
  else
    match Number.parseNumeric? l.lexical with
    | some x => if l.datatype?.isSome then !x.isZero else !l.lexical.isEmpty
    | none => !l.lexical.isEmpty

def truth? : FilterValue → Option Bool
  | bool b => some b
  | term (.literal l) => some (literalTruth l)
  | term _ => none

end FilterValue

def Comparison.holds : Comparison → Ordering → Bool
  | equal, o => o == .eq
  | notEqual, o => o != .eq
  | less, o => o == .lt
  | greater, o => o == .gt
  | atMost, o => o != .gt
  | atLeast, o => o != .lt

/-- False if one side is false, whatever the other; true if both are true. -/
def andTruth : Option Bool → Option Bool → Option Bool
  | some false, _ => some false
  | _, some false => some false
  | some true, some true => some true
  | _, _ => none

def orTruth : Option Bool → Option Bool → Option Bool
  | some true, _ => some true
  | _, some true => some true
  | some false, some false => some false
  | _, _ => none

namespace Text

def containsIgnoringCase (text part : String) : Bool :=
  occursIn (lowercase part).toList (lowercase text).toList

end Text

namespace Expression

def value? (row : Binding) : Expression → Option FilterValue
  | .var name => (row.get? name).map .term
  | .const t => some (.term t)
  | .bound name => some (.bool (row.contains name))
  | .not e => do return .bool !(← (← e.value? row).truth?)
  | .and a b =>
    (andTruth ((a.value? row).bind (·.truth?)) ((b.value? row).bind (·.truth?))).map .bool
  | .or a b =>
    (orTruth ((a.value? row).bind (·.truth?)) ((b.value? row).bind (·.truth?))).map .bool
  | .compare op a b => do
    let a ← a.value? row
    let b ← b.value? row
    return .bool (op.holds (compareValues a.text b.text))
  | .regex e p => do return .bool (p.matchesIn (← e.value? row).text)
  | .contains a b => do
    let a ← a.value? row
    let b ← b.value? row
    return .bool (Text.containsIgnoringCase a.text b.text)
  | .strStarts a b => do
    let a ← a.value? row
    let b ← b.value? row
    return .bool (b.text.toList.isPrefixOf a.text.toList)
  | .strEnds a b => do
    let a ← a.value? row
    let b ← b.value? row
    return .bool (b.text.toList.isSuffixOf a.text.toList)
  | .str e => do return .term (.literal (.plain (← e.value? row).text))
  | .lang e => do
    match ← e.value? row with
    | .term (.literal l) => return .term (.literal (.plain (l.language?.getD "")))
    | _ => none
  | .isIri e => do
    match ← e.value? row with
    | .term (.iri _) => return .bool true
    | _ => return .bool false
  | .isLiteral e => do
    match ← e.value? row with
    | .term (.literal _) => return .bool true
    | _ => return .bool false

def holds (e : Expression) (row : Binding) : Bool :=
  ((e.value? row).bind (·.truth?)).getD false

end Expression

def passesAll (filters : List Expression) (row : Binding) : Bool := filters.all (·.holds row)

end LinkedRaces
