import LinkedRaces.Number.Binary

/-!
Numbers as positional decimal text: the fewest digits that read back as the same number, or all
digits of a whole number.
-/

namespace LinkedRaces.Number

/-- The reals `x` with `low ≤ x ≤ high` (or strictly between them) over a common denominator, around
the value that they all round to. -/
structure Interval where
  low : Nat
  value : Nat
  high : Nat
  den : Nat
  closed : Bool

namespace Interval

/-- The reals that round to a positive pattern. The ends belong to it if the significand is even;
the lower half is narrower below a power of two. -/
def ofPattern (f : Format) (pattern : Nat) : Interval :=
  let (m, q) := f.decode pattern
  let lower := if m = Nat.pow 2 f.fractionBits ∧ f.leastExponent < q then 1 else 2
  let scale := if 0 ≤ q then Nat.pow 2 q.toNat else 1
  let den := 4 * if 0 ≤ q then 1 else Nat.pow 2 (-q).toNat
  ⟨(4 * m - lower) * scale, 4 * m * scale, (4 * m + 2) * scale, den, m % 2 == 0⟩

def contains (i : Interval) (num unit : Nat) : Bool :=
  if i.closed then i.low * unit ≤ num && num ≤ i.high * unit
  else i.low * unit < num && num < i.high * unit

/-- The multiple of `10 ^ k` nearest to the value, if a multiple lies in the interval. -/
def onGrid? (i : Interval) (k : Int) : Option Nat :=
  let step := if 0 ≤ k then i.den * Nat.pow 10 k.toNat else i.den
  let unit := if 0 ≤ k then 1 else Nat.pow 10 (-k).toNat
  let d := i.value * unit / step
  let below := i.contains (d * step) unit
  let above := i.contains ((d + 1) * step) unit
  let distance := i.value * unit - d * step
  if below && (!above || 2 * distance < step) then some d
  else if above then some (d + 1)
  else none

def gridFrom (i : Interval) (k : Int) : Nat → Nat × Int
  | 0 => (0, 0)
  | n + 1 =>
    match i.onGrid? k with
    | some d => (d, k)
    | none => gridFrom i (k - 1) n

/-- Digits and exponent on the coarsest grid that meets the interval: no more than twenty grids lie
between one above the value and one that certainly does. -/
def shortest (i : Interval) : Nat × Int :=
  let k : Int := Format.decimalDigits i.value - Format.decimalDigits i.den + 1
  i.gridFrom k 24

end Interval

def positional (d : Nat) (k : Int) : String :=
  let digits := Nat.toDigits 10 d
  if 0 ≤ k then String.ofList (digits ++ List.replicate k.toNat '0')
  else
    let places := (-k).toNat
    let padded := List.replicate (places + 1 - digits.length) '0' ++ digits
    let split := padded.length - places
    String.ofList (padded.take split ++ '.' :: padded.drop split)

def shortestText (f : Format) (pattern : Nat) : String :=
  let (d, k) := (Interval.ofPattern f pattern).shortest
  positional d k

/-- The text of a finite magnitude: a whole number with one zero after the point, any other with the
fewest digits that read back. -/
def magnitudeText (f : Format) (pattern : Nat) : String :=
  let (num, den) := f.fraction pattern
  if num % den = 0 then String.ofList (Nat.toDigits 10 (num / den)) ++ ".0"
  else shortestText f pattern

/-- The number as messages show it. A whole number has no point, and zeros behind the fewest digits
that read back. -/
def Binary.display (f : Format) (x : Binary) : String :=
  let magnitude :=
    if !x.isFinite f then "inf" else if x.isZero then "0" else shortestText f x.magnitude
  if x.negative then "-" ++ magnitude else magnitude

end LinkedRaces.Number
