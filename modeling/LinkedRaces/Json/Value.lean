/-! JSON values. Objects keep their fields in order; numbers keep their digits. -/

namespace LinkedRaces

structure Json.Numeral where
  negative : Bool
  whole : List Char
  fraction : List Char
  exponent : Option Int
deriving DecidableEq, Repr, Inhabited

inductive Json
  | null
  | bool (value : Bool)
  | number (value : Json.Numeral)
  | string (text : String)
  /-- A string whose escapes leave half of a surrogate pair, or an object with such a name: written
  correctly, but no text. -/
  | unpaired
  | array (items : List Json)
  | object (fields : List (String × Json))
deriving Repr, Inhabited

namespace Json

def Numeral.ofInt (n : Int) : Numeral := ⟨n < 0, Nat.toDigits 10 n.natAbs, [], none⟩

def ofInt (n : Int) : Json := .number (Numeral.ofInt n)

def ofNat (n : Nat) : Json := ofInt n

def strings (texts : List String) : Json := .array (texts.map .string)

def field? (name : String) : Json → Option Json
  | .object fields => (fields.find? (·.1 == name)).map (·.2)
  | _ => none

end Json

end LinkedRaces
