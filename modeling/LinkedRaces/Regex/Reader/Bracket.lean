import LinkedRaces.Regex.Reader.Escape

/-!
Bracketed sets: characters, ranges, escapes, named classes and further brackets, joined by set
operations, which group to the left. Case is ignored in the operands of an operation and in the set
of a bracket before that is negated.
-/

namespace LinkedRaces.Regex.Reader

inductive SetOperator
  | inter | diff | symmDiff
deriving DecidableEq, Repr, Inhabited

def SetOperator.apply : SetOperator → CharSet → CharSet → CharSet
  | inter => .inter
  | diff => .diff
  | symmDiff => .symmDiff

structure Nested (α : Type) where
  value : α
  depth : Nat
deriving Repr, Inhabited

/-- How deeply items are nested together: one level more than alone, if there are several. -/
def depthOf (depths : List Nat) : Nat :=
  match depths with
  | [] => 0
  | [d] => d
  | ds => ds.foldl max 0 + 1

/-- A set that is being read: its negation, the operands before the last, and the items of that. -/
structure Bracket where
  negated : Bool
  pending : Option (SetOperator × Nested CharSet)
  items : List (Nested CharSet)
deriving Repr, Inhabited

namespace Bracket

def add (b : Bracket) (s : CharSet) (depth : Nat) : Bracket :=
  { b with items := ⟨s, depth⟩ :: b.items }

def last (b : Bracket) : Nested CharSet :=
  ⟨.unions (b.items.map (·.value)), depthOf (b.items.map (·.depth))⟩

def value (flags : Flags) (b : Bracket) : Nested CharSet :=
  match b.pending with
  | some (op, left) =>
    ⟨op.apply (flags.fold left.value) (flags.fold b.last.value), max left.depth b.last.depth + 1⟩
  | none => b.last

def operator (flags : Flags) (b : Bracket) (op : SetOperator) : Bracket :=
  { b with pending := some (op, b.value flags), items := [] }

def close? (flags : Flags) (b : Bracket) : Option (Nested CharSet) :=
  let v := b.value flags
  (flags.negate? b.negated (flags.fold v.value)).map fun s => ⟨s, v.depth + 1⟩

end Bracket

def namedClass? (name : String) : Option CharSet :=
  let ofPairs (pairs : List (Char × Char)) : CharSet :=
    .ofRanges (pairs.map fun (a, b) => (a.toNat, b.toNat))
  match name with
  | "alnum" => some (ofPairs [('0', '9'), ('A', 'Z'), ('a', 'z')])
  | "alpha" => some (ofPairs [('A', 'Z'), ('a', 'z')])
  | "ascii" => some .ascii
  | "blank" => some (ofPairs [('\t', '\t'), (' ', ' ')])
  | "cntrl" => some (.ofRanges [(0, 31), (127, 127)])
  | "digit" => some asciiDigit
  | "graph" => some (.range '!' '~')
  | "lower" => some (.range 'a' 'z')
  | "print" => some (.range ' ' '~')
  | "punct" => some (ofPairs [('!', '/'), (':', '@'), ('[', '\x60'), ('\x7b', '~')])
  | "space" => some asciiSpace
  | "upper" => some (.range 'A' 'Z')
  | "word" => some asciiWord
  | "xdigit" => some (ofPairs [('0', '9'), ('A', 'F'), ('a', 'f')])
  | _ => none

def classText? : List Char → Option (Bool × CharSet × List Char)
  | ':' :: rest =>
    let (negated, rest) := match rest with
      | '^' :: rest => (true, rest)
      | _ => (false, rest)
    match rest.dropWhile (· != ':') with
    | ':' :: ']' :: after =>
      (namedClass? (String.ofList (rest.takeWhile (· != ':')))).map fun s => (negated, s, after)
    | _ => none
  | _ => none

def setItem? (flags : Flags) : List Char → Option (Escape × List Char)
  | [] => none
  | '\\' :: rest => (escape? flags rest).filter fun (e, _) => isAllowed e
  | c :: rest => if isAllowed (.char c) then some (.char c, rest) else none
where
  isAllowed : Escape → Bool
    | .char c => flags.unicode || c.toNat < 128
    | .set _ => true
    | .boundary _ => false

def itemSet? : Escape → Option CharSet
  | .char c => some (.char c)
  | .set s => some s
  | .boundary _ => none

/-- One item or a range of characters. A hyphen before the end or before another is an item. -/
def setRange? (flags : Flags) (cs : List Char) : Option (CharSet × List Char) := do
  let (first, rest) ← setItem? flags cs
  let rest ← skip? flags rest
  match rest with
  | '-' :: more =>
    if glance flags more = some ']' ∨ glance flags more = some '-' then
      return (← itemSet? first, rest)
    else
      let (last, rest) ← setItem? flags (← skip? flags more)
      match first, last with
      | .char a, .char b => if a ≤ b then return (.range a b, rest) else none
      | _, _ => none
  | rest => return (← itemSet? first, rest)

/-- Hyphens at the beginning are items. Every round uses up a character. -/
def leadingHyphens (flags : Flags) : Nat → Bracket → List Char → Bracket × List Char
  | rounds + 1, b, '-' :: rest =>
    leadingHyphens flags rounds (b.add (.char '-') 0) (skip flags rest)
  | _, b, cs => (b, cs)

def openBracket (flags : Flags) (cs : List Char) : Bracket × List Char :=
  let cs := skip flags cs
  let (negated, cs) := match cs with
    | '^' :: rest => (true, skip flags rest)
    | _ => (false, cs)
  match leadingHyphens flags cs.length ⟨negated, none, []⟩ cs with
  | (⟨negated, none, []⟩, ']' :: rest) =>
    (Bracket.add ⟨negated, none, []⟩ (.char ']') 0, skip flags rest)
  | r => r

def setBody? (flags : Flags) (outer : List Bracket) (b : Bracket) :
    Nat → List Char → Option (Nested CharSet × List Char)
  | 0, _ => none
  | rounds + 1, cs =>
    match skip flags cs with
    | [] => none
    | ']' :: rest =>
      match b.close? flags, outer with
      | none, _ => none
      | some s, [] => some (s, rest)
      | some s, parent :: outer => setBody? flags outer (parent.add s.value s.depth) rounds rest
    | '[' :: rest =>
      match classText? rest with
      | some (negated, s, rest) =>
        match flags.negate? negated (flags.fold s) with
        | some s => setBody? flags outer (b.add s 0) rounds rest
        | none => none
      | none =>
        let (inner, rest) := openBracket flags rest
        setBody? flags (b :: outer) inner rounds rest
    | '&' :: '&' :: rest => setBody? flags outer (b.operator flags .inter) rounds rest
    | '-' :: '-' :: rest => setBody? flags outer (b.operator flags .diff) rounds rest
    | '~' :: '~' :: rest => setBody? flags outer (b.operator flags .symmDiff) rounds rest
    | cs =>
      match setRange? flags cs with
      | some (s, rest) => setBody? flags outer (b.add s 0) rounds rest
      | none => none

def set? (flags : Flags) (cs : List Char) : Option (Nested CharSet × List Char) :=
  let (b, rest) := openBracket flags cs
  setBody? flags [] b (rest.length + 1) rest

end LinkedRaces.Regex.Reader
