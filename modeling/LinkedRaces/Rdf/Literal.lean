import LinkedRaces.Number.Integer
import LinkedRaces.Rdf.Iri
import LinkedRaces.Text.Lowercase

/-! Literals: a lexical form with nothing, a language tag or a datatype beside it. -/

namespace LinkedRaces

inductive Literal.Kind
  | plain
  | language (tag : String)
  | typed (datatype : Iri)
deriving DecidableEq, Repr, Inhabited

/-- Language tags are kept in lower case. -/
structure Literal where
  lexical : String
  kind : Literal.Kind
  lowered : ∀ tag, kind = .language tag → ∃ source, tag = Text.lowercase source
deriving DecidableEq, Repr

namespace Literal

def plain (lexical : String) : Literal := ⟨lexical, .plain, nofun⟩

def typed (lexical : String) (datatype : Iri) : Literal := ⟨lexical, .typed datatype, nofun⟩

def tagged (lexical tag : String) : Literal :=
  ⟨lexical, .language (Text.lowercase tag), by rintro _ ⟨⟩; exact ⟨tag, rfl⟩⟩

instance : Inhabited Literal := ⟨plain ""⟩

def isPlain (l : Literal) : Bool := l.kind == .plain

def language? (l : Literal) : Option String :=
  match l.kind with
  | .language tag => some tag
  | _ => none

def datatype? (l : Literal) : Option Iri :=
  match l.kind with
  | .typed datatype => some datatype
  | _ => none

def integer? (l : Literal) : Option Int := Number.readInt64? l.lexical.toList

def escapeChar : Char → List Char
  | '\\' => ['\\', '\\']
  | '"' => ['\\', '"']
  | '\n' => ['\\', 'n']
  | '\r' => ['\\', 'r']
  | '\t' => ['\\', 't']
  | c => [c]

def escape (lexical : String) : String := String.ofList (lexical.toList.flatMap escapeChar)

def quoted (lexical : String) : String := "\"" ++ escape lexical ++ "\""

def display (l : Literal) : String :=
  match l.kind with
  | .plain => quoted l.lexical
  | .language tag => quoted l.lexical ++ "@" ++ tag
  | .typed datatype => quoted l.lexical ++ "^^" ++ datatype.display

end Literal

end LinkedRaces
