import LinkedRaces.Lexical.Tokenizer
import LinkedRaces.Query.Parser.Groups

/-! Whole queries, from text: prologue, one of four forms, and the modifiers. -/

namespace LinkedRaces

namespace QueryParser

open Tokens (took)

def prefixDeclaration (t : Namespaces) (keyword : Located) : TokenReader QueryError Namespaces :=
  Tokens.prefixDeclaration t (failureAfter .prefixName keyword) (failureAfter .prefixIri)

def baseDeclaration (t : Namespaces) (keyword : Located) (ts : Tokens) : Result Namespaces ts := do
  return (← Tokens.reference t (failureAfter .baseIri keyword) ts).map t.setBase

def prologue (t : Namespaces) (ts : Tokens) : Except QueryError (Namespaces × Tokens) :=
  match ts with
  | [] => .ok (t, [])
  | x :: rest =>
    if x.token.isKeyword "PREFIX" then do
      let ⟨t, rest', _⟩ ← prefixDeclaration t x rest
      prologue t rest'
    else if x.token.isKeyword "BASE" then do
      let ⟨t, rest', _⟩ ← baseDeclaration t x rest
      prologue t rest'
    else .ok (t, x :: rest)
termination_by ts.length
decreasing_by all_goals simp; omega

def rejectDataset (ts : Tokens) : Except QueryError Unit :=
  if nextIs "FROM" ts then refuse .dataset else .ok ()

def selected : Tokens → Except QueryError (List String × Tokens)
  | [] => .ok ([], [])
  | x :: rest =>
    match x.token with
    | .var name => do
      let (names, rest) ← selected rest
      .ok (name :: names, rest)
    | .mark .openParen =>
      match rest with
      | ⟨.word word, _⟩ :: _ =>
        if aggregates.contains (Text.lowercase word) then refuse .aggregates
        else refuse .projectionExpressions
      | _ => refuse .projectionExpressions
    | _ => .ok ([], x :: rest)

def projection (ts : Tokens) : Except QueryError (Projection × Tokens) :=
  match ts with
  | ⟨.mark .star, _⟩ :: rest => .ok (.all, rest)
  | ts => do
    let (names, rest) ← selected ts
    if names.isEmpty then fail .selected rest else .ok (.vars names.eraseDups, rest)

def groupThen {α : Type} (t : Namespaces) (ts : Tokens) (f : Group → α) :
    Except QueryError (α × Tokens) := do
  let r ← group t ts
  .ok (f r.value, r.rest)

def selectForm (t : Namespaces) (ts : Tokens) :
    Except QueryError ((QueryForm × Group) × Tokens) := do
  let (p, rest) ← projection ts
  rejectDataset rest
  groupThen t (skipKeyword "WHERE" rest) fun g => (.select p, g)

def constructForm (t : Namespaces) (ts : Tokens) :
    Except QueryError ((QueryForm × Group) × Tokens) :=
  if nextIs "WHERE" ts then do
    let (g, rest) ← groupThen t (skipKeyword "WHERE" ts) id
    if g.isPlain then .ok ((.construct g.required, g), rest) else fail .plainPatterns rest
  else do
    let ⟨patterns, rest, _⟩ ← template t ts
    rejectDataset rest
    if nextIs "WHERE" rest then
      groupThen t (skipKeyword "WHERE" rest) fun g => (.construct patterns, g)
    else fail .whereAfterTemplate rest

def described (t : Namespaces) : Tokens → Except QueryError (List Term × Tokens)
  | [] => .ok ([], [])
  | x :: rest =>
    match x.token with
    | .var name => do
      let (terms, rest) ← described t rest
      .ok (.var name :: terms, rest)
    | .iri _ | .prefixed .. => do
      let i ← iri t (x :: rest)
      let (terms, rest) ← described t rest
      .ok (.iri i.value :: terms, rest)
    | _ => .ok ([], x :: rest)

def resources (t : Namespaces) (ts : Tokens) : Except QueryError (List Term × Tokens) :=
  match ts with
  | ⟨.mark .star, _⟩ :: rest => .ok ([], rest)
  | ts => do
    let (terms, rest) ← described t ts
    if terms.isEmpty then fail .described rest else .ok (terms, rest)

def opensGroup : Tokens → Bool
  | [] => false
  | t :: _ => t.token == .mark .openBrace

def describeForm (t : Namespaces) (ts : Tokens) :
    Except QueryError ((QueryForm × Group) × Tokens) := do
  let (terms, rest) ← resources t ts
  rejectDataset rest
  if nextIs "WHERE" rest || opensGroup rest then
    groupThen t (skipKeyword "WHERE" rest) fun g => (.describe terms, g)
  else .ok ((.describe terms, .empty), rest)

inductive FormKeyword
  | select | construct | ask | describe

def formKeyword? (token : Token) : Option FormKeyword :=
  if token.isKeyword "SELECT" then some .select
  else if token.isKeyword "CONSTRUCT" then some .construct
  else if token.isKeyword "ASK" then some .ask
  else if token.isKeyword "DESCRIBE" then some .describe
  else none

def distinctness (ts : Tokens) : Bool × Tokens :=
  if nextIs "DISTINCT" ts then (true, skipKeyword "DISTINCT" ts)
  else (false, skipKeyword "REDUCED" ts)

def form (t : Namespaces) (ts : Tokens) :
    Except QueryError ((QueryForm × Group × Bool) × Tokens) :=
  match ts with
  | [] => fail .form []
  | x :: rest =>
    match formKeyword? x.token with
    | some .select => do
      let (distinct, rest) := distinctness rest
      let ((f, g), rest) ← selectForm t rest
      .ok ((f, g, distinct), rest)
    | some .construct => do
      let ((f, g), rest) ← constructForm t rest
      .ok ((f, g, false), rest)
    | some .ask => groupThen t (skipKeyword "WHERE" rest) fun g => (.ask, g, false)
    | some .describe => do
      let ((f, g), rest) ← describeForm t rest
      .ok ((f, g, false), rest)
    | none => fail .form (x :: rest)

def maxCount : Nat := Number.wordCount 64 - 1

def count (clause : String) (ts : Tokens) : Result Nat ts :=
  match ts with
  | ⟨.integer digits, text⟩ :: rest =>
    if digits.toList.head? = some '-' then fail (.count clause) (⟨.integer digits, text⟩ :: rest)
    else
      let n := Number.ofDigits (digits.toList.dropWhile (· == '+'))
      took (min n maxCount) ⟨.integer digits, text⟩ rest
  | ts => fail (.count clause) ts

def directedVariable (ts : Tokens) : Result String ts :=
  match ts with
  | [] => fail .orderStart []
  | paren :: rest =>
    if paren.token ≠ .mark .openParen then fail .orderStart (paren :: rest)
    else
      match rest with
      | ⟨.var name, _⟩ :: rest' => do
        return ((← mark .closeParen .parenEnd rest').map fun _ => name).loosen.loosen
      | rest => failAfter .orderVariable paren rest

def orderKey? (ts : Tokens) : Except QueryError (Option (Reading Located OrderKey ts.length)) :=
  match ts with
  | [] => .ok none
  | x :: rest =>
    match x.token with
    | .var name => .ok (some (.stay ⟨name, true⟩ rest))
    | .mark .openParen => refuse .orderExpressions
    | token =>
      if token.isKeyword "ASC" || token.isKeyword "DESC" then do
        let r ← directedVariable rest
        return some (r.map (⟨·, token.isKeyword "ASC"⟩)).loosen
      else .ok none

def orderKeys (ts : Tokens) :
    Except QueryError (Reading Located (List OrderKey) (ts.length + 1)) := do
  match ← orderKey? ts with
  | none => return .stay [] ts
  | some r => return (r.followedBy ((← orderKeys r.rest).map (r.value :: ·))).loosen
termination_by ts.length
decreasing_by exact r.shorter

def order (ts : Tokens) : Result (List OrderKey) ts :=
  match ts with
  | [] => fail .orderBy []
  | x :: rest =>
    if x.token.isKeyword "BY" then do
      let r ← orderKeys rest
      if r.value.isEmpty then fail .orderKey r.rest else return r
    else fail .orderBy (x :: rest)

inductive ModifierKeyword
  | order | limit | offset | group | having

def modifierKeyword? (token : Token) : Option ModifierKeyword :=
  if token.isKeyword "GROUP" then some .group
  else if token.isKeyword "HAVING" then some .having
  else if token.isKeyword "ORDER" then some .order
  else if token.isKeyword "LIMIT" then some .limit
  else if token.isKeyword "OFFSET" then some .offset
  else none

/-- The modifiers, in any order. Keys of order add up; of limits and offsets the last holds, and no
limit exceeds `maxLimit`. -/
def modifiers (maxLimit : Nat) (m : Modifiers) (ts : Tokens) :
    Except QueryError (Modifiers × Tokens) :=
  match ts with
  | [] => .ok (m, [])
  | x :: rest =>
    match modifierKeyword? x.token with
    | some .group => refuse .groupBy
    | some .having => refuse .having
    | some .order => do
      let ⟨keys, rest', _⟩ ← order rest
      modifiers maxLimit { m with orderBy := m.orderBy ++ keys } rest'
    | some .limit => do
      let ⟨n, rest', _⟩ ← count "LIMIT" rest
      modifiers maxLimit { m with limit := min n maxLimit } rest'
    | some .offset => do
      let ⟨n, rest', _⟩ ← count "OFFSET" rest
      modifiers maxLimit { m with offset := n } rest'
    | none => .ok (m, x :: rest)
termination_by ts.length
decreasing_by all_goals simp; omega

def finish : Tokens → Except QueryError Unit
  | [] => .ok ()
  | ts => if nextIs "VALUES" ts then refuse .values else fail .trailing ts

def query (t : Namespaces) (maxLimit : Nat) (ts : Tokens) : Except QueryError Query := do
  let (t, rest) ← prologue t ts
  let ((f, g, distinct), rest) ← form t rest
  let (m, rest) ← modifiers maxLimit { Modifiers.ofLimit maxLimit with distinct := distinct } rest
  finish rest
  .ok ⟨f, g, m, t⟩

end QueryParser

namespace Query

def parseWith (t : Namespaces) (maxLimit : Nat) (text : String) : Except QueryError Query :=
  match tokenize text.toList with
  | .error e => .error (.malformed (.lexical e.fault) e.text)
  | .ok tokens => QueryParser.query t maxLimit tokens

def parse (text : String) : Except QueryError Query := parseWith .wellKnown defaultLimit text

end Query

end LinkedRaces
