import LinkedRaces.Lexical.Token
import LinkedRaces.Lexical.Tokenizer
import LinkedRaces.Lexical.Tokens

/-!
The Turtle reader: directives, and statements with their lists of predicates and objects. Blank
nodes and collections are refused. N-Triples documents are Turtle documents.
-/

namespace LinkedRaces.Turtle

inductive Fault
  | lexical (fault : LexicalFault)
  | dot
  | prefixName
  | reference
  | iri
  | unknownPrefix (label : String)
deriving DecidableEq, Repr, Inhabited

def Fault.message : Fault → String
  | lexical fault => fault.message
  | dot => "Expected '.'"
  | prefixName => "Expected prefix name like 'ex:'"
  | reference => "Expected <iri>"
  | iri => "Expected IRI"
  | unknownPrefix label => "Unknown prefix '" ++ label ++ ":'"

inductive Unsupported
  | blankNodes
  | collections
deriving DecidableEq, Repr, Inhabited

inductive ReadError
  | malformed (fault : Fault) (text : List Char)
  | unsupported (feature : Unsupported)
deriving DecidableEq, Repr, Inhabited

def Unsupported.name : Unsupported → String
  | blankNodes => "blank nodes"
  | collections => "collections"

def ReadError.message : ReadError → String
  | malformed fault text => "invalid Turtle: " ++ near fault.message text
  | unsupported feature => "invalid Turtle: unsupported query feature: " ++ feature.name

namespace Reader

open Tokens (took)

abbrev Result (α : Type) (ts : Tokens) := Taken ReadError α ts

def failure (fault : Fault) (ts : Tokens) : ReadError := .malformed fault (textFrom ts)

def fail {α : Type} (fault : Fault) (ts : Tokens) : Except ReadError α := .error (failure fault ts)

def iri (t : Namespaces) (ts : Tokens) : Result Iri ts :=
  match ts with
  | [] => fail .iri []
  | x :: rest =>
    match x.token with
    | .iri body => took (t.resolve body) x rest
    | .prefixed label name =>
      match t.expand? label name with
      | some i => took i x rest
      | none => fail (.unknownPrefix label) (x :: rest)
    | .blank _ | .mark .openBracket => .error (.unsupported .blankNodes)
    | _ => fail .iri (x :: rest)

def object (t : Namespaces) (ts : Tokens) : Result Term ts :=
  match ts with
  | [] => fail .iri []
  | x :: rest =>
    match x.token, x.token.shorthand? with
    | .string value, _ => do return (← Tokens.quoted (iri t) value x rest).map .literal
    | _, some literal => took (.literal literal) x rest
    | .mark .openParen, none => .error (.unsupported .collections)
    | _, none => do return (← iri t (x :: rest)).map .iri

def verb (t : Namespaces) (ts : Tokens) : Result Iri ts :=
  match ts with
  | ⟨.word "a", text⟩ :: rest => took Vocabulary.rdfType ⟨.word "a", text⟩ rest
  | ts => iri t ts

def verbObjects (t : Namespaces) (s : Iri) (ts : Tokens) : Result (List Triple) ts := do
  let p ← verb t ts
  let objects ← Tokens.commaSeparated (object t) p.rest
  return p.andThen (objects.map (·.map (⟨s, p.value, ·⟩)))

def atDot : Tokens → Bool
  | [] => false
  | x :: _ => x.token == .mark .dot

def predicates (t : Namespaces) (s : Iri) : TokenReader ReadError (List Triple) :=
  Tokens.semicolonSeparated (verbObjects t s) atDot

def statement (t : Namespaces) (ts : Tokens) : Result (List Triple) ts := do
  let s ← iri t ts
  let triples ← predicates t s.value s.rest
  let dot ← Tokens.mark .dot (failure .dot) triples.rest
  return s.andThen (triples.andThen (dot.map fun _ => triples.value))

/-- What a directive declares, and whether a dot has to end it. -/
inductive Directive
  | declarePrefix (dotted : Bool)
  | declareBase (dotted : Bool)
deriving DecidableEq

def directive? (token : Token) : Option Directive :=
  if token = .tag "prefix" then some (.declarePrefix true)
  else if token = .tag "base" then some (.declareBase true)
  else if token.isKeyword "PREFIX" then some (.declarePrefix false)
  else if token.isKeyword "BASE" then some (.declareBase false)
  else none

def declaration (t : Namespaces) (ts : Tokens) : Directive → Result Namespaces ts
  | .declarePrefix _ =>
    Tokens.prefixDeclaration t (failure .prefixName) (fun _ => failure .reference) ts
  | .declareBase _ => do return (← Tokens.reference t (failure .reference) ts).map t.setBase

def Directive.dotted : Directive → Bool
  | .declarePrefix dotted | .declareBase dotted => dotted

/-- Reads to the end, or to the first fault. The table is the one known at that point. -/
def document (t : Namespaces) (ts : Tokens) : Namespaces × Except ReadError (List Triple) :=
  match ts with
  | [] => (t, .ok [])
  | x :: rest =>
    match directive? x.token with
    | some d =>
      match declaration t rest d with
      | .error e => (t, .error e)
      | .ok ⟨t, rest₁, _⟩ =>
        if d.dotted then
          match Tokens.mark .dot (failure .dot) rest₁ with
          | .error e => (t, .error e)
          | .ok ⟨_, rest₂, _⟩ => document t rest₂
        else document t rest₁
    | none =>
      match statement t (x :: rest) with
      | .error e => (t, .error e)
      | .ok ⟨triples, rest₁, _⟩ =>
        let (t, more) := document t rest₁
        (t, more.map (triples ++ ·))
termination_by ts.length
decreasing_by all_goals simp_all <;> omega

end Reader

def readFrom (t : Namespaces) (text : String) : Namespaces × Except ReadError (List Triple) :=
  match tokenize text.toList with
  | .error e => (t, .error (.malformed (.lexical e.fault) e.text))
  | .ok tokens => Reader.document t tokens

def read (text : String) : Except ReadError (List Triple) := (readFrom .empty text).2

end LinkedRaces.Turtle
