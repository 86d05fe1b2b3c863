import LinkedRaces.Lexical.Token
import LinkedRaces.Rdf.Literal
import LinkedRaces.Rdf.Namespaces
import LinkedRaces.Rdf.Vocabulary
import LinkedRaces.Reading

/-!
What is taken from the front of a token list: marks, references, literals, and lists with
separators. The readers of the items are parameters, and so are the faults: each is made from the
tokens that are left where it arises.
-/

namespace LinkedRaces

def Token.shorthand? : Token → Option Literal
  | .integer digits => some (.typed digits Vocabulary.xsdInteger)
  | .decimal digits => some (.typed digits Vocabulary.xsdDecimal)
  | .double digits => some (.typed digits Vocabulary.xsdDouble)
  | .word text =>
    if text = "true" ∨ text = "false" then some (.typed text Vocabulary.xsdBoolean) else none
  | _ => none

abbrev Tokens := List Located

abbrev Taken (ε α : Type) (ts : Tokens) := Except ε (Reading Located α ts.length)

abbrev TokenReader (ε α : Type) := (ts : Tokens) → Taken ε α ts

namespace Tokens

variable {ε α : Type}

def took (value : α) (t : Located) (ts : Tokens) : Taken ε α (t :: ts) := .ok (.stay value ts)

def mark (m : Mark) (fault : Tokens → ε) : TokenReader ε Unit
  | [] => .error (fault [])
  | t :: rest => if t.token = .mark m then took () t rest else .error (fault (t :: rest))

def reference (t : Namespaces) (fault : Tokens → ε) : TokenReader ε Iri
  | ⟨.iri body, text⟩ :: rest => took (t.resolve body) ⟨.iri body, text⟩ rest
  | ts => .error (fault ts)

/-- The table after a prefix with its colon and the reference that it stands for. The fault of the
reference may depend on the prefix before it. -/
def prefixDeclaration (t : Namespaces) (labelFault : Tokens → ε)
    (referenceFault : Located → Tokens → ε) : TokenReader ε Namespaces
  | [] => .error (labelFault [])
  | x :: rest =>
    match x.token with
    | .prefixed label "" => do
      let r ← reference t (referenceFault x) rest
      return (r.map fun i => t.insert label i.text).loosen
    | _ => .error (labelFault (x :: rest))

def quoted (iri : TokenReader ε Iri) (value : String) (x : Located) (ts : Tokens) :
    Taken ε Literal (x :: ts) :=
  match ts with
  | [] => took (.plain value) x []
  | y :: rest =>
    match y.token with
    | .tag tag => return (Reading.stay (.tagged value tag) rest).loosen
    | .mark .doubleCaret => do return ((← iri rest).map (.typed value)).loosen.loosen
    | _ => took (.plain value) x (y :: rest)

def isMark (m : Mark) (t : Located) : Bool := t.token == .mark m

def commaSeparated (item : TokenReader ε α) (ts : Tokens) : Taken ε (List α) ts := do
  let r ← item ts
  match r.skip? (isMark .comma) with
  | some r' => return r'.andThen ((← commaSeparated item r'.rest).map (r.value :: ·))
  | none => return r.map ([·])
termination_by ts.length
decreasing_by exact r'.shorter

/-- Parts with semicolons between them, put together. Semicolons may be repeated, and may stand
after the last part, which is where `atEnd` holds of what follows them. -/
def semicolonSeparated (part : TokenReader ε (List α)) (atEnd : Tokens → Bool) (ts : Tokens) :
    Taken ε (List α) ts := do
  let r ← part ts
  match (r.skip? (isMark .semicolon)).map (·.skipAll (isMark .semicolon)) with
  | some r' =>
    if atEnd r'.rest then return r'
    else return r'.andThen ((← semicolonSeparated part atEnd r'.rest).map (r.value ++ ·))
  | none => return r
termination_by ts.length
decreasing_by exact r'.shorter

end Tokens

end LinkedRaces
