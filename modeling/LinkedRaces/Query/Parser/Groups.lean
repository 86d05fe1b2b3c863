import LinkedRaces.Query.Parser.Filters

/-! Triple patterns, groups and templates, from tokens. -/

namespace LinkedRaces.QueryParser

open Tokens (took)

def groupKeywords : List String := ["UNION", "MINUS", "GRAPH", "SERVICE", "BIND", "VALUES"]

def groupKeyword? (token : Token) : Option String := groupKeywords.find? token.isKeyword

/-- The triples end before a dot, the end of the group, or a part that begins with a keyword. -/
def atStatementEnd : Tokens → Bool
  | [] => true
  | t :: _ =>
    t.token == .mark .dot || t.token == .mark .closeBrace || t.token.isKeyword "OPTIONAL" ||
      t.token.isKeyword "FILTER" || (groupKeyword? t.token).isSome

def pathMarks : List Mark := [.slash, .bar, .star, .plus, .question]

def rejectPath : Tokens → Except QueryError Unit
  | ⟨.mark m, _⟩ :: _ => if pathMarks.contains m then refuse .propertyPaths else .ok ()
  | _ => .ok ()

def predicateObjects (t : Namespaces) (s : Term) (ts : Tokens) :
    Result (List TriplePattern) ts := do
  let p ← predicate t ts
  rejectPath p.rest
  let objects ← Tokens.commaSeparated (object t) p.rest
  return p.andThen (objects.map (·.map (⟨s, p.value, ·⟩)))

def predicates (t : Namespaces) (s : Term) : TokenReader QueryError (List TriplePattern) :=
  Tokens.semicolonSeparated (predicateObjects t s) atStatementEnd

def statement (t : Namespaces) (ts : Tokens) : Result (List TriplePattern) ts := do
  let s ← subject t ts
  let patterns := s.andThen (← predicates t s.value s.rest)
  match patterns.skip? (Tokens.isMark .dot) with
  | some r => return r
  | none =>
    if atStatementEnd patterns.rest then return patterns else fail .statementEnd patterns.rest

inductive PartStart
  | groupEnd | dot | group | optional | filter
  | unsupported (keyword : String)
  | triples
deriving DecidableEq

def partStart (token : Token) : PartStart :=
  if token = .mark .closeBrace then .groupEnd
  else if token = .mark .dot then .dot
  else if token = .mark .openBrace then .group
  else if token.isKeyword "OPTIONAL" then .optional
  else if token.isKeyword "FILTER" then .filter
  else
    match groupKeyword? token with
    | some keyword => .unsupported keyword
    | none => .triples

/-- The parts of a group up to its closing brace. In an optional block, `nested` is set, and there
are no further blocks. -/
def parts (t : Namespaces) (nested : Bool) (ts : Tokens) : Result Group ts :=
  match ts with
  | [] => fail .groupEnd []
  | x :: rest =>
    match partStart x.token with
    | .groupEnd => took .empty x rest
    | .dot => do return (← parts t nested rest).loosen
    | .group => refuse .nestedGroups
    | .optional =>
      if nested then refuse .nestedOptionals
      else do
        let start ← mark .openBrace .groupStart rest
        let inner ← parts t true start.rest
        let block : Block := ⟨inner.value.required, inner.value.filters⟩
        let r ← parts t nested inner.rest
        let r := r.map fun g => { g with optionals := block :: g.optionals }
        return (start.andThen (inner.andThen r)).loosen
    | .filter => do
      let e ← constraint t rest
      let r ← parts t nested e.rest
      let r := r.map fun g => { g with filters := e.value :: g.filters }
      return (e.andThen r).loosen
    | .unsupported keyword => refuse (.groupKeyword keyword)
    | .triples => do
      let patterns ← statement t (x :: rest)
      let r ← parts t nested patterns.rest
      return patterns.andThen (r.map fun g => { g with required := patterns.value ++ g.required })
termination_by ts.length
decreasing_by
  · simp
  · grind [start.shorter]
  · grind [start.shorter, inner.shorter]
  · grind [e.shorter]
  · exact patterns.shorter

def group (t : Namespaces) (ts : Tokens) : Result Group ts := do
  let start ← mark .openBrace .groupStart ts
  return start.andThen (← parts t false start.rest)

def templateParts (t : Namespaces) (ts : Tokens) : Result (List TriplePattern) ts :=
  match ts with
  | [] => fail .templateEnd []
  | x :: rest =>
    if x.token = .mark .closeBrace then took [] x rest
    else if x.token = .mark .dot then do return (← templateParts t rest).loosen
    else do
      let patterns ← statement t (x :: rest)
      let more ← templateParts t patterns.rest
      return patterns.andThen (more.map (patterns.value ++ ·))
termination_by ts.length
decreasing_by
  · simp
  · exact patterns.shorter

def template (t : Namespaces) (ts : Tokens) : Result (List TriplePattern) ts := do
  let start ← mark .openBrace .templateStart ts
  return start.andThen (← templateParts t start.rest)

end LinkedRaces.QueryParser
