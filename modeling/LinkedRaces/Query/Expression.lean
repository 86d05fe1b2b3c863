import LinkedRaces.Query.TextPattern
import LinkedRaces.Rdf.Term

/-! The conditions of filters. -/

namespace LinkedRaces

inductive Comparison
  | equal | notEqual | less | greater | atMost | atLeast
deriving DecidableEq, Repr, Inhabited

def Comparison.name : Comparison → String
  | equal => "="
  | notEqual => "!="
  | less => "<"
  | greater => ">"
  | atMost => "<="
  | atLeast => ">="

inductive Expression
  | var (name : String)
  | const (term : Term)
  | bound (name : String)
  | not (e : Expression)
  | and (a b : Expression)
  | or (a b : Expression)
  | compare (op : Comparison) (a b : Expression)
  | regex (e : Expression) (pattern : TextPattern)
  | contains (a b : Expression)
  | strStarts (a b : Expression)
  | strEnds (a b : Expression)
  | str (e : Expression)
  | lang (e : Expression)
  | isIri (e : Expression)
  | isLiteral (e : Expression)
deriving DecidableEq, Repr, Inhabited

end LinkedRaces
