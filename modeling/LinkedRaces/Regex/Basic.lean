import LinkedRaces.Regex.Unicode.BinaryProperty

/-!
Regular expressions. The functions that build them leave out what changes nothing: they join texts,
flatten sequences and choices, and take out what all branches of a choice begin with.
-/

namespace LinkedRaces.Regex

structure Place where
  before : Option Char
  after : Option Char
deriving DecidableEq, Repr, Inhabited

inductive Boundary
  | textStart | textEnd
  | lineStart | lineEnd
  /-- A carriage return ends a line as well, but not between it and a line feed. -/
  | lineStartCrlf | lineEndCrlf
  | word (unicode : Bool) | notWord (unicode : Bool)
  | wordStart (unicode : Bool) | wordEnd (unicode : Bool)
  | wordStartHalf (unicode : Bool) | wordEndHalf (unicode : Bool)
deriving DecidableEq, Repr, Inhabited

def asciiWord : CharSet := .ofRanges [(48, 57), (65, 90), (95, 95), (97, 122)]

def isWord (unicode : Bool) (c : Option Char) : Bool :=
  c.any (if unicode then BinaryProperty.word else asciiWord).contains

def Boundary.holds (b : Boundary) (p : Place) : Bool :=
  match b with
  | textStart => p.before.isNone
  | textEnd => p.after.isNone
  | lineStart => p.before.isNone || p.before == some '\n'
  | lineEnd => p.after.isNone || p.after == some '\n'
  | lineStartCrlf =>
    p.before.isNone || p.before == some '\n' || (p.before == some '\r' && p.after != some '\n')
  | lineEndCrlf =>
    p.after.isNone || p.after == some '\r' || (p.after == some '\n' && p.before != some '\r')
  | word u => isWord u p.before != isWord u p.after
  | notWord u => isWord u p.before == isWord u p.after
  | wordStart u => !isWord u p.before && isWord u p.after
  | wordEnd u => isWord u p.before && !isWord u p.after
  | wordStartHalf u => !isWord u p.before
  | wordEndHalf u => !isWord u p.after

end LinkedRaces.Regex

namespace LinkedRaces

inductive Regex
  | empty
  | text (cs : List Char)
  | chars (set : Regex.CharSet)
  | boundary (b : Regex.Boundary)
  /-- At least `least` times, and at most `most` times if that is given. -/
  | repeated (least : Nat) (most : Option Nat) (greedy : Bool) (r : Regex)
  | group (index : Nat) (r : Regex)
  | sequence (rs : List Regex)
  | choice (rs : List Regex)
deriving BEq, Repr, Inhabited

namespace Regex

def nestLimit : Nat := 250

def ofSet (s : CharSet) : Regex :=
  match s.single? with
  | some c => .text [c]
  | none => .chars s

def isPoint : Regex → Bool
  | empty | boundary _ => true
  | text _ | chars _ => false
  | repeated _ most _ r => most.isSome && isPoint r
  | group _ r => isPoint r
  | sequence rs => arePoints rs
  | choice rs => arePoints rs
where
  arePoints : List Regex → Bool
    | [] => true
    | r :: rs => isPoint r && arePoints rs

/-- To repeat what matches no character more than once changes nothing. -/
def ofRepetition (least : Nat) (most : Option Nat) (greedy : Bool) (r : Regex) : Regex :=
  let least := if isPoint r then min least 1 else least
  let most := if isPoint r then some (min (most.getD 1) 1) else most
  if least = 0 ∧ most = some 0 then .empty
  else if least = 1 ∧ most = some 1 then r
  else .repeated least most greedy r

def parts : Regex → List Regex
  | sequence rs => rs
  | empty => []
  | r => [r]

def prepend (r : Regex) (rs : List Regex) : List Regex :=
  match r, rs with
  | .text a, .text b :: rest => .text (a ++ b) :: rest
  | r, rs => r :: rs

def ofSequence (rs : List Regex) : Regex :=
  match (rs.flatMap parts).foldr prepend [] with
  | [] => .empty
  | [r] => r
  | rs => .sequence rs

def branches : Regex → List Regex
  | choice rs => rs
  | r => [r]

def char? : Regex → Option CharSet
  | text [c] => some (.char c)
  | _ => none

def set? : Regex → Option CharSet
  | chars s => some s
  | _ => none

def sequence? : Regex → Option (List Regex)
  | sequence rs => some rs
  | _ => none

def commonStart : List Regex → List Regex → List Regex
  | r :: rs, s :: ss => if r == s then r :: commonStart rs ss else []
  | _, _ => []

/-- Each round takes out what the branches have in common and looks into a choice deeper. -/
def ofChoice (rounds : Nat) (rs : List Regex) : Regex :=
  match rs.flatMap branches with
  | [] => .chars .empty
  | [r] => r
  | rs =>
    match rs.mapM char?, rs.mapM set?, rs.mapM sequence? with
    | some sets, _, _ | none, some sets, _ => ofSet (.unions sets)
    | none, none, some (first :: others) =>
      let start := others.foldl commonStart first
      match rounds, start with
      | rounds + 1, _ :: _ =>
        let rest := (first :: others).map fun rs => ofSequence (rs.drop start.length)
        ofSequence (start ++ [ofChoice rounds rest])
      | _, _ => .choice rs
    | _, _, _ => .choice rs

/-- The least number of characters that a match has; none if a part matches nothing at all. -/
def shortest? : Regex → Option Nat
  | empty | boundary _ => some 0
  | text cs => some cs.length
  | chars s => if s = .empty then none else some 1
  | repeated least _ _ r => (shortest? r).map (least * ·)
  | group _ r => shortest? r
  | sequence rs => total? rs
  | choice rs => least? rs
where
  total? : List Regex → Option Nat
    | [] => some 0
    | r :: rs => do return (← shortest? r) + (← total? rs)
  least? : List Regex → Option Nat
    | [] => none
    | [r] => shortest? r
    | r :: rs => do return min (← shortest? r) (← least? rs)

def beginsText : Regex → Bool
  | boundary b => b == .textStart
  | repeated least _ _ r => 0 < least && beginsText r
  | group _ r => beginsText r
  | sequence rs => first rs
  | choice rs => !rs.isEmpty && all rs
  | _ => false
where
  first : List Regex → Bool
    | [] => false
    | r :: rs => beginsText r || (isPoint r && first rs)
  all : List Regex → Bool
    | [] => true
    | r :: rs => beginsText r && all rs

def endsText : Regex → Bool
  | boundary b => b == .textEnd
  | repeated least _ _ r => 0 < least && endsText r
  | group _ r => endsText r
  | sequence rs => last rs
  | choice rs => !rs.isEmpty && all rs
  | _ => false
where
  last : List Regex → Bool
    | [] => false
    | r :: rs => last rs || (endsText r && isPoint.arePoints rs)
  all : List Regex → Bool
    | [] => true
    | r :: rs => endsText r && all rs

end Regex

end LinkedRaces
