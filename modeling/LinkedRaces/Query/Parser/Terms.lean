import LinkedRaces.Lexical.Tokens
import LinkedRaces.Query.Basic
import LinkedRaces.Query.Error

/-! Terms of queries and triple patterns, from tokens. -/

namespace LinkedRaces.QueryParser

open Tokens (took)

abbrev Result (α : Type) (ts : Tokens) := Taken QueryError α ts

def failure (fault : QueryFault) (ts : Tokens) : QueryError := .malformed fault (textFrom ts)

/-- A fault at the next token, or at the last one taken if none is left. -/
def failureAfter (fault : QueryFault) (last : Located) : Tokens → QueryError
  | [] => failure fault [last]
  | ts => failure fault ts

def fail {α : Type} (fault : QueryFault) (ts : Tokens) : Except QueryError α :=
  .error (failure fault ts)

def failAfter {α : Type} (fault : QueryFault) (last : Located) (ts : Tokens) :
    Except QueryError α :=
  .error (failureAfter fault last ts)

def refuse {α : Type} (feature : QueryFeature) : Except QueryError α :=
  .error (.unsupported feature)

def mark (m : Mark) (fault : QueryFault) : TokenReader QueryError Unit :=
  Tokens.mark m (failure fault)

def nextIs (keyword : String) : Tokens → Bool
  | [] => false
  | t :: _ => t.token.isKeyword keyword

def skipKeyword (keyword : String) : Tokens → Tokens
  | [] => []
  | t :: rest => if t.token.isKeyword keyword then rest else t :: rest

def iri (t : Namespaces) (ts : Tokens) : Result Iri ts :=
  match ts with
  | [] => fail .iri []
  | x :: rest =>
    match x.token with
    | .iri body => took (t.resolve body) x rest
    | .prefixed label name =>
      match t.expand? label name with
      | some i => took i x rest
      | none => fail (.unknownPrefix label) (x :: rest)
    | _ => fail .iri (x :: rest)

def literal (t : Namespaces) (fault : QueryFault) (ts : Tokens) : Result Literal ts :=
  match ts with
  | [] => fail fault []
  | x :: rest =>
    match x.token, x.token.shorthand? with
    | .string value, _ => Tokens.quoted (iri t) value x rest
    | _, some l => took l x rest
    | _, none => fail fault (x :: rest)

def subject (t : Namespaces) (ts : Tokens) : Result Term ts :=
  match ts with
  | [] => fail .subject []
  | x :: rest =>
    match x.token with
    | .var name => took (.var name) x rest
    | .iri _ | .prefixed .. => do return (← iri t (x :: rest)).map .iri
    | .blank _ | .mark .openBracket => refuse .blankNodes
    | .string _ | .integer _ | .decimal _ | .double _ => fail .literalSubject (x :: rest)
    | _ => fail .subject (x :: rest)

def predicate (t : Namespaces) (ts : Tokens) : Result Term ts :=
  match ts with
  | [] => fail .predicate []
  | x :: rest =>
    match x.token with
    | .var name => took (.var name) x rest
    | .word word =>
      if word = "a" then took (.iri Vocabulary.rdfType) x rest else fail .predicate (x :: rest)
    | .iri _ | .prefixed .. => do return (← iri t (x :: rest)).map .iri
    | .mark .caret | .mark .bang | .mark .openParen => refuse .propertyPaths
    | _ => fail .predicate (x :: rest)

def object (t : Namespaces) (ts : Tokens) : Result Term ts :=
  match ts with
  | [] => fail .object []
  | x :: rest =>
    match x.token with
    | .var name => took (.var name) x rest
    | .iri _ | .prefixed .. => do return (← iri t (x :: rest)).map .iri
    | .blank _ | .mark .openBracket => refuse .blankNodes
    | .mark .openParen => refuse .collections
    | _ => do return (← literal t .object (x :: rest)).map .literal

end LinkedRaces.QueryParser
