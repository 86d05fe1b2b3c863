import LinkedRaces.Query.Parser.Terms

/-!
Conditions of filters, from tokens. From loosest to tightest bind: or, and, not, comparison. A
comparison has one operator, and there is no arithmetic.
-/

namespace LinkedRaces

namespace QueryParser

open Tokens (took)

def aggregates : List String := ["count", "sum", "avg", "min", "max", "sample", "group_concat"]

def arithmeticMarks : List Mark := [.plus, .minus, .star, .slash]

def rejectArithmetic : Tokens → Except QueryError Unit
  | ⟨.mark m, _⟩ :: _ => if arithmeticMarks.contains m then refuse .arithmetic else .ok ()
  | _ => .ok ()

def comparison? : Mark → Option Comparison
  | .equal => some .equal
  | .notEqual => some .notEqual
  | .less => some .less
  | .greater => some .greater
  | .atMost => some .atMost
  | .atLeast => some .atLeast
  | _ => none

def textPattern (pattern flags : String) (ts : Tokens) : Except QueryError TextPattern :=
  match flags.toList.find? (!TextPattern.knownFlags.contains ·) with
  | some c => fail (.regexFlag c) ts
  | none =>
    match TextPattern.compile pattern flags with
    | .ok p => .ok p
    | .error fault => fail (.regex fault pattern) ts

def stringArgument (fault : QueryFault) (ts : Tokens) : Result String ts :=
  match ts with
  | ⟨.string value, text⟩ :: rest => took value ⟨.string value, text⟩ rest
  | ts => fail fault ts

def boundArgument (paren : Located) (ts : Tokens) : Result Expression ts :=
  match ts with
  | ⟨.var name, text⟩ :: rest => took (.bound name) ⟨.var name, text⟩ rest
  | ts => failAfter .boundVariable paren ts

def regexArguments (target : Expression) (ts : Tokens) : Result Expression ts := do
  let ⟨_, rest₁, h₁⟩ ← mark .comma (.callComma "regex") ts
  let ⟨pattern, rest₂, h₂⟩ ← stringArgument .regexPattern rest₁
  match rest₂, h₂ with
  | ⟨.mark .comma, _⟩ :: rest₃, h₂ =>
    let ⟨flags, rest₄, h₄⟩ ← stringArgument .regexFlags rest₃
    let p ← textPattern pattern flags rest₄
    .ok ⟨.regex target p, rest₄, by simp at h₂; omega⟩
  | rest₂, h₂ =>
    let p ← textPattern pattern "" rest₂
    .ok ⟨.regex target p, rest₂, by omega⟩

def unaryFunction? : String → Option (Expression → Expression)
  | "str" => some .str
  | "lang" => some .lang
  | "isliteral" => some .isLiteral
  | "isiri" | "isuri" => some .isIri
  | _ => none

def binaryFunction? : String → Option (Expression → Expression → Expression)
  | "contains" => some .contains
  | "strstarts" => some .strStarts
  | "strends" => some .strEnds
  | _ => none

mutual

def disjunction (t : Namespaces) (ts : Tokens) : Result Expression ts := do
  let ⟨e, rest, h⟩ ← conjunction t ts
  let r ← disjuncts t e rest
  return r.weaken h
termination_by (ts.length, 6)

def disjuncts (t : Namespaces) (left : Expression) (ts : Tokens) :
    Except QueryError (Reading Located Expression (ts.length + 1)) :=
  match ts with
  | ⟨.mark .or, text⟩ :: rest => do
    let ⟨right, rest', h⟩ ← conjunction t rest
    let r ← disjuncts t (.or left right) rest'
    return r.weaken (by simp; omega)
  | ts => .ok ⟨left, ts, by omega⟩
termination_by (ts.length, 0)

def conjunction (t : Namespaces) (ts : Tokens) : Result Expression ts := do
  let ⟨e, rest, h⟩ ← negation t ts
  let r ← conjuncts t e rest
  return r.weaken h
termination_by (ts.length, 5)

def conjuncts (t : Namespaces) (left : Expression) (ts : Tokens) :
    Except QueryError (Reading Located Expression (ts.length + 1)) :=
  match ts with
  | ⟨.mark .and, text⟩ :: rest => do
    let ⟨right, rest', h⟩ ← negation t rest
    let r ← conjuncts t (.and left right) rest'
    return r.weaken (by simp; omega)
  | ts => .ok ⟨left, ts, by omega⟩
termination_by (ts.length, 0)

def negation (t : Namespaces) (ts : Tokens) : Result Expression ts :=
  match ts with
  | ⟨.mark .bang, text⟩ :: rest => do
    let r ← negation t rest
    return (r.map .not).weaken (by simp)
  | ts => relation t ts
termination_by (ts.length, 4)

def relation (t : Namespaces) (ts : Tokens) : Result Expression ts := do
  let ⟨left, rest, h⟩ ← operand t ts
  rejectArithmetic rest
  match rest, h with
  | [], h => .ok ⟨left, [], h⟩
  | x :: rest', h =>
    match x.token with
    | .mark m =>
      match comparison? m with
      | some op =>
        have : rest'.length < ts.length := by simp at h; omega
        let ⟨right, rest'', h'⟩ ← operand t rest'
        rejectArithmetic rest''
        .ok ⟨.compare op left right, rest'', by omega⟩
      | none => .ok ⟨left, x :: rest', h⟩
    | token =>
      if token.isKeyword "IN" || token.isKeyword "NOT" then refuse .membership
      else .ok ⟨left, x :: rest', h⟩
termination_by (ts.length, 3)

def operand (t : Namespaces) (ts : Tokens) : Result Expression ts :=
  match ts with
  | [] => fail .expression []
  | x :: rest =>
    match x.token with
    | .mark .openParen => do
      let ⟨e, rest₁, h₁⟩ ← disjunction t rest
      let ⟨_, rest₂, h₂⟩ ← mark .closeParen .parenEnd rest₁
      .ok ⟨e, rest₂, by simp; omega⟩
    | .var name => took (.var name) x rest
    | .iri _ | .prefixed .. => do return (← iri t (x :: rest)).map (.const ∘ .iri)
    | .word word =>
      if word = "true" ∨ word = "false" then do
        return (← literal t .expression (x :: rest)).map (.const ∘ .literal)
      else call t word x rest
    | _ => do return (← literal t .expression (x :: rest)).map (.const ∘ .literal)
termination_by (ts.length, 2)

/-- A call of a function, after its name `x`. Names are read in lower case. -/
def call (t : Namespaces) (word : String) (x : Located) (ts : Tokens) :
    Result Expression (x :: ts) :=
  let name := Text.lowercase word
  if aggregates.contains name then refuse .aggregates
  else if name = "exists" ∨ name = "not" then refuse .exists_
  else
    match ts with
    | [] => fail (.callStart name) []
    | paren :: rest =>
      if paren.token ≠ .mark .openParen then fail (.callStart name) (paren :: rest)
      else do
        let ⟨e, rest₁, h₁⟩ ← arguments t name paren rest
        let ⟨_, rest₂, h₂⟩ ← mark .closeParen (.callEnd name) rest₁
        .ok ⟨e, rest₂, by simp; omega⟩
termination_by (ts.length, 1)

def arguments (t : Namespaces) (name : String) (paren : Located) (ts : Tokens) :
    Result Expression ts :=
  if name = "bound" then boundArgument paren ts
  else if name = "regex" then do
    let ⟨target, rest, h⟩ ← disjunction t ts
    let r ← regexArguments target rest
    return r.weaken (by omega)
  else
    match binaryFunction? name, unaryFunction? name with
    | some f, _ => do
      let ⟨a, rest₁, h₁⟩ ← disjunction t ts
      let ⟨_, rest₂, h₂⟩ ← mark .comma (.callComma name) rest₁
      let ⟨b, rest₃, h₃⟩ ← disjunction t rest₂
      .ok ⟨f a b, rest₃, by omega⟩
    | none, some f => do
      let r ← disjunction t ts
      return r.map f
    | none, none => refuse (.function name)
termination_by (ts.length, 7)

end

def constraint (t : Namespaces) (ts : Tokens) : Result Expression ts :=
  match ts with
  | [] => fail .filterStart []
  | x :: rest =>
    match x.token with
    | .mark .openParen => do
      let ⟨e, rest₁, h₁⟩ ← disjunction t rest
      let ⟨_, rest₂, h₂⟩ ← mark .closeParen .filterEnd rest₁
      .ok ⟨e, rest₂, by simp; omega⟩
    | .word word =>
      if x.token.isKeyword "NOT" || x.token.isKeyword "EXISTS" then refuse .exists_
      else call t word x rest
    | _ => fail .filterStart (x :: rest)

end QueryParser

end LinkedRaces
