import LinkedRaces.Text.Range

/-!
Sets of characters, as sorted ranges of code points that neither overlap nor touch. Between the
surrogates' neighbours there is no character, so a complement never begins or ends inside that gap.
-/

namespace LinkedRaces.Regex

structure CharSet where
  ranges : List (Nat × Nat)
deriving DecidableEq, Repr, Inhabited

/-- Every `step`-th code point from `first` to `last`. -/
structure Run where
  first : Nat
  last : Nat
  step : Nat

def Run.ranges (r : Run) : List (Nat × Nat) :=
  if r.step = 1 then [(r.first, r.last)]
  else (List.range ((r.last - r.first) / r.step + 1)).map fun k =>
    (r.first + k * r.step, r.first + k * r.step)

namespace CharSet

def greatest : Nat := 0x10FFFF

/-- Joins sorted ranges that overlap or touch; `a` to `b` is the first of them. -/
def join (a b : Nat) : List (Nat × Nat) → List (Nat × Nat)
  | [] => [(a, b)]
  | (c, d) :: rest => if c ≤ b + 1 then join a (max b d) rest else (a, b) :: join c d rest

def ofRanges (ranges : List (Nat × Nat)) : CharSet :=
  match ranges.mergeSort fun r s => decide (r.1 ≤ s.1) with
  | [] => ⟨[]⟩
  | (a, b) :: rest => ⟨join a b rest⟩

def ofRuns (runs : List Run) : CharSet := ofRanges (runs.flatMap Run.ranges)

def empty : CharSet := ⟨[]⟩

def any : CharSet := ⟨[(0, greatest)]⟩

def ascii : CharSet := ⟨[(0, 127)]⟩

def range (first last : Char) : CharSet := ⟨[(first.toNat, last.toNat)]⟩

def char (c : Char) : CharSet := range c c

def contains (s : CharSet) (c : Char) : Bool := Text.inRanges s.ranges c.toNat

def union (s t : CharSet) : CharSet := ofRanges (s.ranges ++ t.ranges)

def unions (sets : List CharSet) : CharSet := ofRanges (sets.flatMap (·.ranges))

def next (n : Nat) : Nat := if n = 0xD7FF then 0xE000 else n + 1

def previous (n : Nat) : Nat := if n = 0xE000 then 0xD7FF else n - 1

def gaps (start : Nat) : List (Nat × Nat) → List (Nat × Nat)
  | [] => if start ≤ greatest then [(start, greatest)] else []
  | (a, b) :: rest =>
    if start < a then (start, previous a) :: gaps (next b) rest else gaps (next b) rest

def compl (s : CharSet) : CharSet := ⟨gaps 0 s.ranges⟩

def diff (s t : CharSet) : CharSet := (s.compl.union t).compl

def inter (s t : CharSet) : CharSet := s.diff t.compl

def symmDiff (s t : CharSet) : CharSet := (s.diff t).union (t.diff s)

def isAscii (s : CharSet) : Bool := s.ranges.all (·.2 < 128)

def single? (s : CharSet) : Option Char :=
  match s.ranges with
  | [(a, b)] => if a = b then some (Char.ofNat a) else none
  | _ => none

end CharSet

end LinkedRaces.Regex
