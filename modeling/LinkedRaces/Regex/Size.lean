import LinkedRaces.Regex.Basic
import LinkedRaces.Regex.CharSet
import Std.Data.HashMap

/-!
The size of a regex: the memory of the two automata that read the bytes of a text with it, one
forwards and one backwards. A state takes 32 bytes, a byte range by which a state is left 8 more,
and a state that a choice leads to 4 more. A regex is too large when either automaton is.

States for sets of characters are shared within one set: forwards those with the same continuations,
backwards those for the same beginnings. A state is found again if no other has taken its slot in
a table, and that slot depends on the numbers of the states.

The UTF-8 forms of a range are those of a few sequences of byte ranges: wherever one byte changes,
all later bytes take every value that they can.
-/

namespace LinkedRaces.Regex

structure ByteRange where
  first : Nat
  last : Nat
deriving DecidableEq, Repr, Inhabited

namespace ByteRange

def encode (n : Nat) : List Nat :=
  if n < 0x80 then [n]
  else if n < 0x800 then [0xC0 + n / 64, 0x80 + n % 64]
  else if n < 0x10000 then [0xE0 + n / 4096, 0x80 + n / 64 % 64, 0x80 + n % 64]
  else [0xF0 + n / 262144, 0x80 + n / 4096 % 64, 0x80 + n / 64 % 64, 0x80 + n % 64]

/-- Where the ranges of a greater length begin, and where the surrogates do. -/
def lengthCut? (a b : Nat) : Option Nat :=
  if a < 0xD800 ∧ 0xE000 ≤ b then some 0xD7FF
  else [0x7F, 0x7FF, 0xFFFF].find? fun n => decide (a ≤ n ∧ n < b)

/-- The last code point that goes with `a` when the last bytes, which have `size` values together,
do not take all of them. -/
def byteCut? (a b size : Nat) : Option Nat :=
  if a / size = b / size then none
  else if a % size ≠ 0 then some (a / size * size + (size - 1))
  else if b % size ≠ size - 1 then some (b / size * size - 1)
  else none

def cut? (a b : Nat) : Option Nat :=
  (lengthCut? a b).orElse fun _ =>
    if b < 0x80 then none else [64, 4096, 262144].findSome? (byteCut? a b)

/-- The sequences for the code points from `a` to `b`. A range is cut less than `cuts` times. -/
def sequences : Nat → Nat → Nat → List (List ByteRange)
  | 0, _, _ => []
  | cuts + 1, a, b =>
    match cut? a b with
    | some n => sequences cuts a n ++ sequences cuts (CharSet.next n) b
    | none => [List.zipWith ByteRange.mk (encode a) (encode b)]

end ByteRange

def CharSet.byteSequences (s : CharSet) : List (List ByteRange) :=
  s.ranges.flatMap fun (a, b) => ByteRange.sequences 32 a b

/-- An automaton that is being built, by the number of its states and what they take beyond the
same amount each. -/
structure Automaton where
  states : Nat
  extra : Nat
deriving DecidableEq, Repr, Inhabited

/-- A part of an automaton: with it, and whether its last state is one that choices leave. -/
structure Fragment where
  automaton : Automaton
  branching : Bool
deriving DecidableEq, Repr, Inhabited

namespace Automaton

def greatestSize : Nat := 10485760

def size (a : Automaton) : Nat := a.states * 32 + a.extra

def fit? (a : Automaton) : Option Automaton := if a.size ≤ greatestSize then some a else none

def add? (a : Automaton) (states extra : Nat) : Option Automaton :=
  fit? ⟨a.states + states, a.extra + extra⟩

def branch? (a : Automaton) : Option Automaton := a.add? 0 4

def link? (f : Fragment) : Option Automaton :=
  if f.branching then f.automaton.branch? else some f.automaton

abbrev Node := List (ByteRange × Nat)

abbrev Table (Key : Type) := Std.HashMap UInt64 (Key × Nat)

def mix (hash : UInt64) (n : Nat) : UInt64 := (hash ^^^ n.toUInt64) * 1099511628211

def slot (slots : UInt64) (numbers : List Nat) : UInt64 :=
  numbers.foldl mix 14695981039346656037 % slots

def find? {Key : Type} [DecidableEq Key] (table : Table Key) (i : UInt64) (key : Key) :
    Option Nat :=
  match table[i]? with
  | some (k, state) => if k = key then some state else none
  | none => none

structure Indexed (Key : Type) where
  automaton : Automaton
  table : Table Key

def node? (x : Indexed Node) (n : Node) : Option (Nat × Indexed Node) :=
  let i := slot 10000 (n.flatMap fun (r, next) => [r.first, r.last, next])
  match find? x.table i n with
  | some state => some (state, x)
  | none => do
    let a ← x.automaton.add? 1 (8 * n.length)
    return (x.automaton.states, ⟨a, x.table.insert i (n, x.automaton.states)⟩)

def groups : List (List ByteRange) → List (ByteRange × List (List ByteRange))
  | [] => []
  | [] :: rest => groups rest
  | (r :: rs) :: rest =>
    match groups rest with
    | (s, tails) :: others => if r = s then (s, rs :: tails) :: others
        else (r, [rs]) :: (s, tails) :: others
    | [] => [(r, [rs])]

def trie? (target : Nat) : Nat → List (List ByteRange) → Indexed Node →
    Option (Nat × Indexed Node)
  | 0, _, x => some (target, x)
  | length + 1, sequences, x => do
    if sequences.all (·.isEmpty) then return (target, x)
    let (n, x) ← (groups sequences).foldlM (fun ((n, x) : Node × Indexed Node) (r, tails) => do
      let (next, x) ← trie? target length tails x
      return ((r, next) :: n, x)) ([], x)
    node? x n.reverse

def before? (x : Indexed (Nat × ByteRange)) (next : Nat) (r : ByteRange) :
    Option (Nat × Indexed (Nat × ByteRange)) :=
  let i := slot 1000 [next, r.first, r.last]
  match find? x.table i (next, r) with
  | some state => some (state, x)
  | none => do
    let a ← x.automaton.add? 1 0
    return (x.automaton.states, ⟨a, x.table.insert i ((next, r), x.automaton.states)⟩)

/-- Backwards every sequence has a branch of its own, but the states for its first bytes are
shared. -/
def backwards? (target : Nat) (x : Indexed (Nat × ByteRange)) (sequence : List ByteRange) :
    Option (Indexed (Nat × ByteRange)) := do
  let (_, x) ← sequence.foldlM (fun (next, x) r => before? x next r) (target, x)
  return { x with automaton := ← x.automaton.branch? }

def set? (backwards : Bool) (s : CharSet) (a : Automaton) : Option Fragment :=
  if s.isAscii then do return ⟨← a.add? 2 (8 * s.ranges.length), false⟩
  else if backwards then do
    let x ← s.byteSequences.foldlM (backwards? (a.states + 1)) ⟨← a.add? 2 0, ∅⟩
    return ⟨x.automaton, false⟩
  else do
    let (_, x) ← trie? a.states 4 s.byteSequences ⟨← a.add? 1 0, ∅⟩
    return ⟨x.automaton, false⟩

def split : List (List Nat) → List (List (List Nat))
  | [] => [[]]
  | [] :: rest => [] :: split rest
  | w :: rest =>
    match split rest with
    | [] => [[w]]
    | chunk :: later => (w :: chunk) :: later

/-- The same, where ends before all other texts count once. -/
def chunks : List (List Nat) → List (List (List Nat))
  | [] :: rest => [] :: split (rest.dropWhile (·.isEmpty))
  | words => split words

def byFirst (words : List (List Nat)) : List (List (List Nat)) :=
  let firsts := (words.filterMap (·.head?)).eraseDups
  firsts.map fun b => (words.filter (·.head? == some b)).map (·.drop 1)

def texts? : Nat → List (List Nat) → Automaton → Option Automaton
  | 0, _, a => some a
  | length + 1, words, a => do
    let cs := chunks words
    let a ← cs.foldlM (fun a chunk => do
      let subtrees := byFirst chunk
      let a ← subtrees.foldlM (fun a words =>
        if words.all (·.isEmpty) then some a else texts? length words a) a
      match subtrees.length with
      | 0 => some a
      | 1 => a.add? 1 0
      | n => a.add? 1 (8 * n)) a
    a.add? 1 (4 * ((cs.filter (!·.isEmpty)).length + (cs.length - 1)))

def text? : Regex → Option (List Char)
  | .text cs => some cs
  | _ => none

def bytes (backwards : Bool) (cs : List Char) : List Nat :=
  let bs := cs.flatMap fun c => ByteRange.encode c.toNat
  if backwards then bs.reverse else bs

def texts (backwards : Bool) (rs : List Regex) : Option (List (List Nat)) :=
  if rs.length < 2 then none
  else rs.mapM fun r => (text? r).map (bytes backwards)

def repeat? (part : Automaton → Option Fragment) : Nat → Fragment → Option Fragment
  | 0, f => some f
  | n + 1, f => do
    let g ← part (← link? f)
    repeat? part n g

def exactly? (part : Automaton → Option Fragment) (n : Nat) (a : Automaton) : Option Fragment :=
  match n with
  | 0 => do return ⟨← a.add? 1 0, false⟩
  | n + 1 => do repeat? part n (← part a)

def upTo? (part : Automaton → Option Fragment) : Nat → Fragment → Option Fragment
  | 0, f => some f
  | n + 1, f => do
    let a ← f.automaton.add? 1 0
    let g ← part a
    let a ← link? { f with automaton := g.automaton }
    let a ← a.add? 0 8
    upTo? part n { g with automaton := a }

def repeated? (part : Automaton → Option Fragment) (mayBeEmpty : Bool) (least : Nat)
    (most : Option Nat) (a : Automaton) : Option Fragment := do
  match least, most with
  | 0, some 1 =>
    let f ← part (← a.add? 1 0)
    let a ← f.automaton.add? 1 8
    return ⟨← link? { f with automaton := a }, false⟩
  | 0, none =>
    if mayBeEmpty then
      let f ← part a
      let a ← link? { f with automaton := ← f.automaton.add? 1 0 }
      return ⟨← a.add? 2 16, false⟩
    else
      let f ← part (← a.add? 1 4)
      return ⟨← link? f, true⟩
  | 1, none =>
    let f ← part a
    let a ← link? { f with automaton := ← f.automaton.add? 1 0 }
    return ⟨← a.branch?, true⟩
  | n + 2, none =>
    let f ← exactly? part (n + 1) a
    let g ← part f.automaton
    let a ← g.automaton.add? 1 0
    let a ← link? { f with automaton := a }
    let a ← link? { g with automaton := a }
    return ⟨← a.branch?, true⟩
  | least, some most =>
    let f ← exactly? part least a
    if least = most then return f
    else
      let f ← upTo? part (most - least) { f with automaton := ← f.automaton.add? 1 0 }
      return ⟨← link? f, false⟩

mutual

def extend? (backwards : Bool) (r : Regex) (a : Automaton) : Option Fragment :=
  match r with
  | .empty | .boundary _ => do return ⟨← a.add? 1 0, false⟩
  | .text cs => do return ⟨← a.add? (bytes backwards cs).length 0, false⟩
  | .chars s => set? backwards s a
  | .repeated least most _ r =>
    repeated? (extend? backwards r) ((shortest? r).getD 0 == 0) least most a
  | .group _ r =>
    if backwards then extend? backwards r a
    else do
      let f ← extend? backwards r (← a.add? 1 0)
      return ⟨← link? { f with automaton := ← f.automaton.add? 1 0 }, false⟩
  | .sequence rs => if backwards then extendBackwards? rs a else extendForwards? rs ⟨a, false⟩
  | .choice rs =>
    match texts backwards rs with
    | some words => do
      let longest := words.foldl (fun n w => max n w.length) 0
      return ⟨← texts? longest words (← a.add? 1 0), false⟩
    | none => extendChoice? backwards 0 rs a

def extendForwards? : List Regex → Fragment → Option Fragment
  | [], f => some f
  | r :: rs, f => do extendForwards? rs (← extend? false r (← link? f))

def extendBackwards? : List Regex → Automaton → Option Fragment
  | [], a => some ⟨a, false⟩
  | r :: rs, a => do extend? true r (← link? (← extendBackwards? rs a))

def extendChoice? (backwards : Bool) (done : Nat) : List Regex → Automaton → Option Fragment
  | [], a => some ⟨a, false⟩
  | r :: rs, a => do
    let f ← extend? backwards r a
    let a ← link? { f with automaton := ← f.automaton.add? (if done = 1 then 2 else 0) 4 }
    extendChoice? backwards (done + 1) rs a

end

/-- What an automaton begins with: nothing else, if all matches are at the end of the text that it
begins at, and else a loop over any bytes. -/
def start? (anchored : Bool) : Option Automaton :=
  if anchored then Automaton.add? ⟨0, 0⟩ 1 0 else Automaton.add? ⟨0, 0⟩ 3 16

def ofRegex? (backwards : Bool) (r : Regex) : Option Automaton := do
  let a ← start? (if backwards then endsText r else beginsText r)
  let marks := if backwards then 0 else 1
  let f ← extend? backwards r (← a.add? marks 0)
  link? { f with automaton := ← f.automaton.add? (marks + 1) 0 }

end Automaton

def fits (r : Regex) : Bool :=
  (Automaton.ofRegex? false r).isSome && (Automaton.ofRegex? true r).isSome

end LinkedRaces.Regex
