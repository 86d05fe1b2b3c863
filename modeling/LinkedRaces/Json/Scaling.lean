import LinkedRaces.Json.Value
import LinkedRaces.Number.Binary
import LinkedRaces.Number.Integer

/-!
The value of a JSON number. A whole number keeps its value. Any other is the digits that fit a word,
scaled by a power of ten in floating-point arithmetic: one product or quotient of two rounded
numbers, so the last bit may differ from the nearest number.
-/

namespace LinkedRaces.Json.Numeral

open Number (binary64)

def integer? (n : Numeral) : Option Int :=
  if n.fraction ≠ [] ∨ n.exponent.isSome then none
  else
    let k := Number.ofDigits n.whole
    if n.negative then (if k = 0 then none else some (-k)) else some k

def maxWord : Nat := Number.wordCount 64 - 1

/-- The digits as a number, as long as it fits a word, and the digits that are left. -/
def significand (acc : Nat) : List Char → Nat × List Char
  | [] => (acc, [])
  | d :: ds =>
    let next := 10 * acc + Number.digitValue d
    if next ≤ maxWord then significand next ds else (acc, d :: ds)

/-- Significand and exponent: digits before the point that do not fit count as factors of ten, and
digits behind it as far as they fit. -/
def parts (n : Numeral) : Nat × Int :=
  let (whole, left) := significand 0 n.whole
  let (all, unused) := significand whole n.fraction
  (all, left.length - (n.fraction.length - unused.length : Nat) + n.exponent.getD 0)

def greatestPower : Nat := 308

def powerOfTen (k : Nat) : Nat := binary64.round (Nat.pow 10 k) 1

def product (a b : Nat) : Nat :=
  let (x, u) := binary64.fraction a
  let (y, v) := binary64.fraction b
  binary64.round (x * y) (u * v)

def quotient (a b : Nat) : Nat :=
  let (x, u) := binary64.fraction a
  let (y, v) := binary64.fraction b
  binary64.round (x * v) (u * y)

/-- Scales by a power of ten; none if the result is too large. Three of the greatest steps down turn
any significand into zero. -/
def scale (pattern : Nat) (e : Int) : Nat → Option Nat
  | 0 => some 0
  | steps + 1 =>
    if pattern = 0 then some 0
    else if greatestPower < e then none
    else if 0 ≤ e then
      let p := product pattern (powerOfTen e.toNat)
      if p < binary64.infinity then some p else none
    else if -e ≤ greatestPower then some (quotient pattern (powerOfTen (-e).toNat))
    else scale (quotient pattern (powerOfTen greatestPower)) (e + greatestPower) steps

def toBinary? (n : Numeral) : Option Number.Binary :=
  let (m, e) := n.parts
  (scale (binary64.round m 1) e 4).map (⟨n.negative, ·⟩)

end LinkedRaces.Json.Numeral
