import LinkedRaces.Number.Integer
import LinkedRaces.Text.Basic
import LinkedRaces.Text.Utf8

/-! Requests and responses of HTTP, as far as the service looks at them, and the fields in them. -/

namespace LinkedRaces.Form

def hexByte? (a b : UInt8) : Option UInt8 := do
  let high ← Number.hexValue? (Char.ofNat a.toNat)
  let low ← Number.hexValue? (Char.ofNat b.toNat)
  return UInt8.ofNat (high * 16 + low)

/-- Bytes named by two digits after a percent sign. A sign without digits stands for itself. -/
def percentDecode : List UInt8 → List UInt8
  | [] => []
  | 37 :: a :: b :: rest =>
    match hexByte? a b with
    | some byte => byte :: percentDecode rest
    | none => 37 :: percentDecode (a :: b :: rest)
  | b :: rest => b :: percentDecode rest

def decodePart (cs : List Char) : String :=
  let spaced := String.ofList (cs.map fun c => if c = '+' then ' ' else c)
  Utf8.decodeReplacing (percentDecode (Utf8.encode spaced))

def field (cs : List Char) : String × String :=
  match Text.splitAt? ['='] cs with
  | some (name, value) => (decodePart name, decodePart value)
  | none => (decodePart cs, "")

def fields (text : String) : List (String × String) :=
  ((Text.splitAll (· == '&') text.toList).filter (!·.isEmpty)).map field

inductive Fault
  | duplicate (name : String)
  | missing (name : String)
deriving DecidableEq, Repr, Inhabited

def Fault.message : Fault → String
  | duplicate name => "duplicate field \x60" ++ name ++ "\x60"
  | missing name => "missing field \x60" ++ name ++ "\x60"

def firstRepeated (seen : List String) : List String → Option String
  | [] => none
  | name :: names => if seen.contains name then some name else firstRepeated (name :: seen) names

/-- The fields of these names, each of which may come once. -/
def known (names : List String) (text : String) : Except Fault (List (String × String)) :=
  let found := (fields text).filter (names.contains ·.1)
  match firstRepeated [] (found.map Prod.fst) with
  | some name => .error (.duplicate name)
  | none => .ok found

end LinkedRaces.Form

namespace LinkedRaces.Http

structure Request where
  method : String := "GET"
  target : String
  headers : List (String × String) := []
  body : List UInt8 := []
deriving DecidableEq, Repr, Inhabited

structure Response where
  status : Nat
  headers : List (String × String) := []
  body : String := ""
deriving DecidableEq, Repr, Inhabited

def isVisible (c : Char) : Bool := c == '\t' || (' ' ≤ c && c ≤ '~')

/-- The first header of that name, in any case; nothing if its value has other than visible
characters. -/
def Request.header (r : Request) (name : String) : String :=
  match r.headers.find? fun (n, _) => Text.eqIgnoringCase n name with
  | some (_, value) => if value.toList.all isVisible then value else ""
  | none => ""

/-- The target without the scheme and the authority, which may stand in front, and without a
fragment. -/
def Request.reference (r : Request) : List Char :=
  let target := r.target.toList.takeWhile (· != '#')
  if target.head? = some '/' then target
  else
    match Text.splitAt? "://".toList target with
    | some (_, rest) => rest.dropWhile fun c => c != '/' && c != '?'
    | none => target

def Request.path (r : Request) : String :=
  match r.reference.takeWhile (· != '?') with
  | [] => "/"
  | path => String.ofList path

def Request.query (r : Request) : String :=
  String.ofList ((r.reference.dropWhile (· != '?')).drop 1)

end LinkedRaces.Http
