/-!
Whole numbers as text: an optional sign and decimal digits, within the bounds of a word; and
numbers and characters by hexadecimal digits.
-/

namespace LinkedRaces.Number

def digitValue (c : Char) : Nat := c.toNat - '0'.toNat

def ofDigits (ds : List Char) : Nat := ds.foldl (fun n d => 10 * n + digitValue d) 0

def readDigits? (cs : List Char) : Option Nat :=
  if cs ≠ [] ∧ cs.all Char.isDigit then some (ofDigits cs) else none

def wordCount (bits : Nat) : Nat := Nat.pow 2 bits

/-- A whole number from zero to `2 ^ bits - 1`; one plus sign may stand in front. -/
def readUnsigned? (bits : Nat) (cs : List Char) : Option Nat :=
  let digits := match cs with
    | '+' :: rest => rest
    | _ => cs
  (readDigits? digits).filter (· < wordCount bits)

def readInt64? (cs : List Char) : Option Int :=
  match cs with
  | '-' :: rest => ((readDigits? rest).filter (· ≤ wordCount 63)).map fun n => -(n : Int)
  | '+' :: rest => ((readDigits? rest).filter (· < wordCount 63)).map Int.ofNat
  | _ => ((readDigits? cs).filter (· < wordCount 63)).map Int.ofNat

def hexValue? (c : Char) : Option Nat :=
  if c.isDigit then some (c.toNat - 48)
  else if 'a' ≤ c ∧ c ≤ 'f' then some (c.toNat - 87)
  else if 'A' ≤ c ∧ c ≤ 'F' then some (c.toNat - 55)
  else none

def readHex? (ds : List Char) : Option Nat :=
  if ds.isEmpty then none else ds.foldlM (fun n d => (hexValue? d).map (16 * n + ·)) 0

def scalar? (n : Nat) : Option Char := if n.isValidChar then some (Char.ofNat n) else none

end LinkedRaces.Number
