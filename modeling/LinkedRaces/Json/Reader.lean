import LinkedRaces.Json.Value
import LinkedRaces.Number.Integer
import LinkedRaces.Reading

/-! JSON text read strictly: one value, nothing but blanks around it. -/

namespace LinkedRaces.Json

def isSpace (c : Char) : Bool := c == ' ' || c == '\t' || c == '\n' || c == '\r'

def skipSpace (cs : List Char) : List Char := cs.dropWhile isSpace

theorem length_skipSpace_le (cs : List Char) : (skipSpace cs).length ≤ cs.length :=
  (List.dropWhile_suffix _).length_le

/-- A character of a string literal, or a `\u` escape, which names a UTF-16 unit. -/
inductive Unit16
  | char (c : Char)
  | unit (n : Nat)

def escaped? : Char → Option Char
  | '"' => some '"'
  | '\\' => some '\\'
  | '/' => some '/'
  | 'b' => some '\x08'
  | 'f' => some '\x0c'
  | 'n' => some '\n'
  | 'r' => some '\r'
  | 't' => some '\t'
  | _ => none

def stringUnits : List Char → Option (List Unit16 × List Char)
  | [] => none
  | '"' :: rest => some ([], rest)
  | '\\' :: 'u' :: a :: b :: c :: d :: rest => do
    let n ← LinkedRaces.Number.readHex? [a, b, c, d]
    let (units, rest) ← stringUnits rest
    return (.unit n :: units, rest)
  | '\\' :: c :: rest => do
    let e ← escaped? c
    let (units, rest) ← stringUnits rest
    return (.char e :: units, rest)
  | c :: rest => do
    if c.toNat < 32 ∨ c = '\\' then none
    let (units, rest) ← stringUnits rest
    return (.char c :: units, rest)

/-- Pairs the surrogates; none if one is left over. -/
def joinUnits : List Unit16 → Option (List Char)
  | [] => some []
  | .char c :: rest => (joinUnits rest).map (c :: ·)
  | .unit high :: .unit low :: rest =>
    if 0xD800 ≤ high ∧ high < 0xDC00 then
      if 0xDC00 ≤ low ∧ low < 0xE000 then
        (joinUnits rest).map (Char.ofNat (0x10000 + (high - 0xD800) * 1024 + (low - 0xDC00)) :: ·)
      else none
    else if 0xDC00 ≤ high ∧ high < 0xE000 then none
    else (joinUnits (.unit low :: rest)).map (Char.ofNat high :: ·)
  | .unit n :: rest =>
    if 0xD800 ≤ n ∧ n < 0xE000 then none else (joinUnits rest).map (Char.ofNat n :: ·)

def ofUnits (units : List Unit16) : Json :=
  match joinUnits units with
  | some cs => .string (String.ofList cs)
  | none => .unpaired

def digits (cs : List Char) : List Char × List Char :=
  (cs.takeWhile Char.isDigit, cs.dropWhile Char.isDigit)

def fraction? : List Char → Option (List Char × List Char)
  | '.' :: rest => if (digits rest).1.isEmpty then none else some (digits rest)
  | cs => some ([], cs)

def exponentDigits? (negative : Bool) (cs : List Char) : Option (Option Int × List Char) :=
  if (digits cs).1.isEmpty then none
  else
    let n : Int := LinkedRaces.Number.ofDigits (digits cs).1
    some (some (if negative then -n else n), (digits cs).2)

def exponent? : List Char → Option (Option Int × List Char)
  | [] => some (none, [])
  | c :: rest =>
    if c = 'e' ∨ c = 'E' then
      match rest with
      | '-' :: rest => exponentDigits? true rest
      | '+' :: rest => exponentDigits? false rest
      | _ => exponentDigits? false rest
    else some (none, c :: rest)

def numeral? (negative : Bool) (cs : List Char) : Option (Numeral × List Char) := do
  let (whole, rest) := digits cs
  if whole = [] ∨ (whole.head? = some '0' ∧ whole.length ≠ 1) then none
  let (fraction, rest) ← fraction? rest
  let (exponent, rest) ← exponent? rest
  return (⟨negative, whole, fraction, exponent⟩, rest)

def scalar? (cs : List Char) : Option (Json × List Char) :=
  match cs with
  | '"' :: rest => (stringUnits rest).map fun (units, rest) => (ofUnits units, rest)
  | 't' :: 'r' :: 'u' :: 'e' :: rest => some (.bool true, rest)
  | 'f' :: 'a' :: 'l' :: 's' :: 'e' :: rest => some (.bool false, rest)
  | 'n' :: 'u' :: 'l' :: 'l' :: rest => some (.null, rest)
  | '-' :: rest => (numeral? true rest).map fun (n, rest) => (.number n, rest)
  | _ => (numeral? false cs).map fun (n, rest) => (.number n, rest)

def name? (cs : List Char) : Option (Option String × List Char) :=
  match skipSpace cs with
  | '"' :: rest => do
    let (units, rest) ← stringUnits rest
    match skipSpace rest with
    | ':' :: rest => return ((joinUnits units).map String.ofList, rest)
    | _ => none
  | _ => none

def ofFields (fields : List (Option String × Json)) : Json :=
  match fields.mapM fun (name, value) => name.map (·, value) with
  | some fields => .object fields
  | none => .unpaired

mutual

def readValue (cs : List Char) : Option (Reading Char Json cs.length) :=
  match h : skipSpace cs with
  | '[' :: rest =>
    have hlt : rest.length < cs.length := by grind [length_skipSpace_le cs]
    match h' : skipSpace rest with
    | ']' :: rest' =>
      some ⟨.array [], rest', by grind [length_skipSpace_le rest]⟩
    | _ => (readItems rest).map fun r => (r.map .array).weaken (Nat.le_of_lt hlt)
  | '\x7b' :: rest =>
    have hlt : rest.length < cs.length := by grind [length_skipSpace_le cs]
    match h' : skipSpace rest with
    | '\x7d' :: rest' =>
      some ⟨.object [], rest', by grind [length_skipSpace_le rest]⟩
    | _ => (readFields rest).map fun r => (r.map ofFields).weaken (Nat.le_of_lt hlt)
  | front => (Reading.advanced? front (scalar? front)).map fun r =>
      r.weaken (h ▸ length_skipSpace_le cs)
termination_by (cs.length, 0)

def readItems (cs : List Char) : Option (Reading Char (List Json) cs.length) := do
  let ⟨item, rest, hlt⟩ ← readValue cs
  match h : skipSpace rest with
  | ',' :: rest' =>
    have hlt' : rest'.length < cs.length := by grind [length_skipSpace_le rest]
    let r ← readItems rest'
    return (r.map (item :: ·)).weaken (Nat.le_of_lt hlt')
  | ']' :: rest' => return ⟨[item], rest', by grind [length_skipSpace_le rest]⟩
  | _ => none
termination_by (cs.length, 1)

def readFields (cs : List Char) :
    Option (Reading Char (List (Option String × Json)) cs.length) := do
  let ⟨name, rest₁, hname⟩ ← Reading.advanced? cs (name? cs)
  let ⟨value, rest, hvalue⟩ ← readValue rest₁
  match h : skipSpace rest with
  | ',' :: rest' =>
    have hlt' : rest'.length < cs.length := by grind [length_skipSpace_le rest]
    let r ← readFields rest'
    return (r.map ((name, value) :: ·)).weaken (Nat.le_of_lt hlt')
  | '\x7d' :: rest' => return ⟨[(name, value)], rest', by grind [length_skipSpace_le rest]⟩
  | _ => none
termination_by (cs.length, 1)

end

def read? (text : String) : Option Json := do
  let r ← readValue text.toList
  if (skipSpace r.rest).isEmpty then some r.value else none

end LinkedRaces.Json
