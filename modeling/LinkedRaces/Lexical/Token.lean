import LinkedRaces.Text.Basic

/-!
The tokens that queries and graph documents are written in. A token found in a text carries the
text from its first character on, which is also what an error message quotes.
-/

namespace LinkedRaces

inductive Mark
  | doubleCaret | openBrace | closeBrace | openParen | closeParen | openBracket | closeBracket
  | dot | semicolon | comma | star | bang | and | or | equal | notEqual | less | greater
  | atMost | atLeast | slash | bar | caret | plus | minus | question
deriving DecidableEq, Repr, Inhabited

namespace Mark

def text : Mark → String
  | doubleCaret => "^^"
  | openBrace => "\x7b"
  | closeBrace => "\x7d"
  | openParen => "("
  | closeParen => ")"
  | openBracket => "["
  | closeBracket => "]"
  | dot => "."
  | semicolon => ";"
  | comma => ","
  | star => "*"
  | bang => "!"
  | and => "&&"
  | or => "||"
  | equal => "="
  | notEqual => "!="
  | less => "<"
  | greater => ">"
  | atMost => "<="
  | atLeast => ">="
  | slash => "/"
  | bar => "|"
  | caret => "^"
  | plus => "+"
  | minus => "-"
  | question => "?"

end Mark

inductive Token
  | iri (reference : String)
  /-- A prefix and a local name, each possibly empty. -/
  | prefixed (label name : String)
  | var (name : String)
  | string (value : String)
  /-- A language tag, or the name of a directive. -/
  | tag (text : String)
  | integer (digits : String)
  | decimal (digits : String)
  | double (digits : String)
  | word (text : String)
  | blank (label : String)
  | mark (m : Mark)
deriving DecidableEq, Repr, Inhabited

namespace Token

/-- After these a sign is an operator, and so is an angle bracket inside parentheses. -/
def endsValue : Token → Bool
  | iri _ | prefixed .. | var _ | string _ | integer _ | decimal _ | double _ => true
  | mark .closeParen => true
  | _ => false

def isKeyword (keyword : String) : Token → Bool
  | word text => Text.eqIgnoringCase text keyword
  | _ => false

def display : Token → String
  | iri reference => "<" ++ reference ++ ">"
  | prefixed label name => label ++ ":" ++ name
  | var name => "?" ++ name
  | string value => "\"" ++ value ++ "\""
  | tag text => "@" ++ text
  | integer digits | decimal digits | double digits => digits
  | word text => text
  | blank label => "_:" ++ label
  | mark m => m.text

end Token

/-- A token and the text from its first character on. -/
structure Located where
  token : Token
  text : List Char
deriving DecidableEq, Repr, Inhabited

def textFrom : List Located → List Char
  | [] => []
  | t :: _ => t.text

def excerptSize : Nat := 48

def excerpt (rest : List Char) : String :=
  match Text.trimStart rest with
  | [] => "<end of input>"
  | cs =>
    String.ofList (cs.take excerptSize) ++ (if (cs.drop excerptSize).isEmpty then "" else "...")

def near (complaint : String) (rest : List Char) : String :=
  complaint ++ " near '" ++ excerpt rest ++ "'"

end LinkedRaces
