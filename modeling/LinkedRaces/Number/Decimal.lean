import LinkedRaces.Number.Binary
import LinkedRaces.Number.Integer
import LinkedRaces.Text.Basic

/-! Decimal text of floating-point numbers, and the narrower class of text that looks numeric. -/

namespace LinkedRaces.Number

def signed : List Char → Bool × List Char
  | '-' :: rest => (true, rest)
  | '+' :: rest => (false, rest)
  | cs => (false, cs)

def significand? (cs : List Char) : Option (Nat × Nat × List Char) :=
  let whole := cs.takeWhile Char.isDigit
  let rest := cs.dropWhile Char.isDigit
  let (frac, rest) := match rest with
    | '.' :: rest => (rest.takeWhile Char.isDigit, rest.dropWhile Char.isDigit)
    | rest => ([], rest)
  if whole.isEmpty && frac.isEmpty then none else some (ofDigits (whole ++ frac), frac.length, rest)

def exponent? : List Char → Option Int
  | [] => some 0
  | e :: rest =>
    if e = 'e' ∨ e = 'E' then
      let (negative, digits) := signed rest
      (readDigits? digits).map fun n => if negative then -(n : Int) else n
    else none

def magnitude? (f : Format) (cs : List Char) : Option Nat := do
  let (m, places, rest) ← significand? cs
  let e ← exponent? rest
  return f.ofDecimal m (e - places)

inductive Reading.Value
  | number (x : Binary)
  | nan
deriving DecidableEq, Repr

/-- Any text of a floating-point number, the words for infinity and for no number included. -/
def readFloat? (f : Format) (cs : List Char) : Option Reading.Value :=
  let (negative, body) := signed cs
  let word := String.ofList (body.map Char.toLower)
  if word = "inf" ∨ word = "infinity" then some (.number ⟨negative, f.infinity⟩)
  else if word = "nan" then some .nan
  else (magnitude? f body).map fun m => .number ⟨negative, m⟩

def isNumericChar (c : Char) : Bool :=
  c.isDigit || c == '.' || c == 'e' || c == 'E' || c == '+' || c == '-'

/-- The value of a text that looks like a number: blanks around it aside, one sign, digits with at
most one point, and an exponent. The value has to be finite. -/
def parseNumeric? (text : String) : Option Binary :=
  let (negative, body) := signed (Text.trimChars text.toList)
  if body.all isNumericChar then
    ((magnitude? binary64 body).filter (· < binary64.infinity)).map (⟨negative, ·⟩)
  else none

end LinkedRaces.Number
