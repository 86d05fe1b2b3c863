import LinkedRaces.Lexical.Scanner
import LinkedRaces.Lexical.Token
import LinkedRaces.Regex.Reader

/-! Why a text is no query: a fault at some place, or a feature that is not supported. -/

namespace LinkedRaces

inductive QueryFault
  | lexical (fault : LexicalFault)
  | form
  | trailing
  | prefixName
  | prefixIri
  | baseIri
  | selected
  | plainPatterns
  | whereAfterTemplate
  | described
  | groupStart
  | groupEnd
  | templateStart
  | templateEnd
  | statementEnd
  | literalSubject
  | subject
  | predicate
  | object
  | iri
  | unknownPrefix (label : String)
  | filterStart
  | filterEnd
  | parenEnd
  | expression
  | callStart (name : String)
  | callComma (name : String)
  | callEnd (name : String)
  | boundVariable
  | regexPattern
  | regexFlags
  | regexFlag (c : Char)
  | regex (fault : Regex.Fault) (pattern : String)
  | orderBy
  | orderKey
  | orderStart
  | orderVariable
  | count (clause : String)
deriving DecidableEq, Repr, Inhabited

def QueryFault.message : QueryFault → String
  | lexical fault => fault.message
  | form => "Expected SELECT, CONSTRUCT, ASK or DESCRIBE"
  | trailing => "Unexpected trailing input"
  | prefixName => "Expected prefix name like 'ex:'"
  | prefixIri => "Expected <iri> after PREFIX"
  | baseIri => "Expected <iri> after BASE"
  | selected => "Expected variables or '*' after SELECT"
  | plainPatterns => "CONSTRUCT WHERE allows only triple patterns"
  | whereAfterTemplate => "Expected WHERE after CONSTRUCT template"
  | described => "Expected IRIs, variables or '*' after DESCRIBE"
  | groupStart => "Expected '\x7b'"
  | groupEnd => "Expected '\x7d'"
  | templateStart => "Expected '\x7b' to open CONSTRUCT template"
  | templateEnd => "Expected '\x7d' to close CONSTRUCT template"
  | statementEnd => "Expected '.' or '\x7d' after triple pattern"
  | literalSubject => "Literal not allowed in subject position"
  | subject => "Expected subject"
  | predicate => "Expected predicate"
  | object => "Expected object"
  | iri => "Expected IRI"
  | unknownPrefix label => "Unknown prefix '" ++ label ++ ":'"
  | filterStart => "Expected '(' after FILTER"
  | filterEnd => "Expected ')' to close FILTER"
  | parenEnd => "Expected ')'"
  | expression => "Expected expression"
  | callStart name => "Expected '(' after " ++ name
  | callComma name => "Expected ',' in " ++ name ++ "()"
  | callEnd name => "Expected ')' to close " ++ name ++ "()"
  | boundVariable => "bound() takes a variable"
  | regexPattern => "regex() pattern must be a string"
  | regexFlags => "regex() flags must be a string"
  | regexFlag c => "Unknown regex flag '" ++ c.toString ++ "'"
  | regex fault pattern => "Invalid regex: " ++ fault.message pattern
  | orderBy => "Expected BY"
  | orderKey => "Expected ORDER BY condition"
  | orderStart => "Expected '(' after ASC/DESC"
  | orderVariable => "ORDER BY supports variables only"
  | count clause => clause ++ " expects a non-negative integer"

inductive QueryFeature
  | aggregates
  | projectionExpressions
  | dataset
  | nestedGroups
  | nestedOptionals
  | groupKeyword (word : String)
  | blankNodes
  | propertyPaths
  | collections
  | exists_
  | membership
  | arithmetic
  | function (name : String)
  | groupBy
  | having
  | orderExpressions
  | values
deriving DecidableEq, Repr, Inhabited

def QueryFeature.name : QueryFeature → String
  | aggregates => "aggregate functions"
  | projectionExpressions => "projection expressions"
  | dataset => "dataset clauses (FROM)"
  | nestedGroups => "nested group patterns and UNION"
  | nestedOptionals => "nested OPTIONAL blocks"
  | groupKeyword word => word
  | blankNodes => "blank nodes"
  | propertyPaths => "property paths"
  | collections => "RDF collections"
  | exists_ => "EXISTS filters"
  | membership => "IN expressions"
  | arithmetic => "arithmetic expressions"
  | function name => "function " ++ name ++ "()"
  | groupBy => "GROUP BY"
  | having => "HAVING"
  | orderExpressions => "ORDER BY expressions"
  | values => "VALUES"

inductive QueryError
  | malformed (fault : QueryFault) (text : List Char)
  | unsupported (feature : QueryFeature)
deriving DecidableEq, Repr, Inhabited

def QueryError.message : QueryError → String
  | malformed fault text => near fault.message text
  | unsupported feature => "unsupported query feature: " ++ feature.name

end LinkedRaces
