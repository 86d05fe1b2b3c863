/-!
Binary floating-point numbers, rounded exactly. The magnitude of a number is its bit pattern without
the sign: patterns are ordered as the numbers are, and the one after the greatest number stands for
infinity.
-/

namespace LinkedRaces.Number

structure Format where
  fractionBits : Nat
  exponentBits : Nat

def binary32 : Format := ⟨23, 8⟩

def binary64 : Format := ⟨52, 11⟩

namespace Format

def infinity (f : Format) : Nat := (Nat.pow 2 f.exponentBits - 1) * Nat.pow 2 f.fractionBits

/-- The exponent of the last bit of the smallest numbers. -/
def leastExponent (f : Format) : Int := 2 - Nat.pow 2 (f.exponentBits - 1) - f.fractionBits

/-- The pattern of a positive number is `(q - leastExponent) * 2 ^ fractionBits + m` if it is
`m * 2 ^ q` with the largest `m` that the fraction can hold; this finds `m` and `q`. -/
def decode (f : Format) (pattern : Nat) : Nat × Int :=
  let e := pattern / Nat.pow 2 f.fractionBits
  let m := pattern % Nat.pow 2 f.fractionBits
  if e = 0 then (m, f.leastExponent)
  else (m + Nat.pow 2 f.fractionBits, f.leastExponent + (e - 1 : Nat))

def fraction (f : Format) (pattern : Nat) : Nat × Nat :=
  let (m, q) := f.decode pattern
  if 0 ≤ q then (m * Nat.pow 2 q.toNat, 1) else (m, Nat.pow 2 (-q).toNat)

def roundToEven (num den : Nat) : Nat :=
  let d := num / den
  let twice := 2 * (num % den)
  if twice < den ∨ (twice = den ∧ d % 2 = 0) then d else d + 1

def floorLog2 (num den : Nat) : Int :=
  let k : Int := Nat.log2 num - Nat.log2 den
  let below := if 0 ≤ k then num < den * Nat.pow 2 k.toNat else num * Nat.pow 2 (-k).toNat < den
  if below then k - 1 else k

def round (f : Format) (num den : Nat) : Nat :=
  if num = 0 then 0
  else
    let q := max (floorLog2 num den - f.fractionBits) f.leastExponent
    let m := if 0 ≤ q then roundToEven num (den * Nat.pow 2 q.toNat)
      else roundToEven (num * Nat.pow 2 (-q).toNat) den
    min ((q - f.leastExponent).toNat * Nat.pow 2 f.fractionBits + m) f.infinity

def decimalDigits (n : Nat) : Nat := (Nat.toDigits 10 n).length

/-- The pattern nearest to `m * 10 ^ e`. Far outside the range of the format the power is not
computed: the answer is infinity or zero. -/
def ofDecimal (f : Format) (m : Nat) (e : Int) : Nat :=
  let size := e + decimalDigits m
  if m = 0 ∨ size < -400 then 0
  else if 400 < size then f.infinity
  else if 0 ≤ e then f.round (m * Nat.pow 10 e.toNat) 1
  else f.round m (Nat.pow 10 (-e).toNat)

end Format

structure Binary where
  negative : Bool
  magnitude : Nat
deriving DecidableEq, Repr, Inhabited

namespace Binary

/-- The number among the whole numbers that are ordered as the floating-point numbers; the two zeros
are one. -/
def rank (x : Binary) : Int := if x.negative then -x.magnitude else x.magnitude

def compareValue (x y : Binary) : Ordering := compare x.rank y.rank

/-- As `rank`, but negative zero is below zero. -/
def totalRank (x : Binary) : Int := if x.negative then -x.magnitude - 1 else x.magnitude

def compareTotal (x y : Binary) : Ordering := compare x.totalRank y.totalRank

def isFinite (f : Format) (x : Binary) : Bool := x.magnitude < f.infinity

def isZero (x : Binary) : Bool := x.magnitude == 0

def bits (f : Format) (x : Binary) : Nat :=
  (if x.negative then Nat.pow 2 (f.fractionBits + f.exponentBits) else 0) + x.magnitude

end Binary

end LinkedRaces.Number
