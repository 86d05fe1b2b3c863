import LinkedRaces.Number.Integer
import LinkedRaces.Text.Basic

/-!
Addresses to listen at. A host is four decimal bytes, or eight hexadecimal groups in brackets; names
are not looked up. Groups are shown shortened: the longest run of zeros, the first of equals, is
left out if it has at least two.
-/

namespace LinkedRaces

structure Ipv4 where
  bytes : List Nat
deriving DecidableEq, Repr, Inhabited

structure Ipv6 where
  groups : List Nat
  zone : Nat
deriving DecidableEq, Repr, Inhabited

inductive Host
  | v4 (address : Ipv4)
  | v6 (address : Ipv6)
deriving DecidableEq, Repr, Inhabited

namespace Ipv4

def byte? (cs : List Char) : Option Nat :=
  if cs.length ≤ 3 ∧ (cs.head? ≠ some '0' ∨ cs.length = 1) then
    (Number.readDigits? cs).filter (· < 256)
  else none

def read? (cs : List Char) : Option Ipv4 :=
  let parts := Text.splitAll (· == '.') cs
  if parts.length = 4 then (parts.mapM byte?).map (⟨·⟩) else none

def text (a : Ipv4) : String := Text.join "." (a.bytes.map toString)

def groups (a : Ipv4) : List Nat :=
  match a.bytes with
  | [b₁, b₂, b₃, b₄] => [b₁ * 256 + b₂, b₃ * 256 + b₄]
  | _ => []

end Ipv4

namespace Ipv6

def group? (cs : List Char) : Option Nat := if cs.length ≤ 4 then Number.readHex? cs else none

def groups? (allowsIpv4 : Bool) (cs : List Char) : Option (List Nat) :=
  if cs.isEmpty then some []
  else
    let parts := Text.splitAll (· == ':') cs
    match allowsIpv4, parts.getLast?.bind Ipv4.read? with
    | true, some a => (parts.dropLast.mapM group?).map (· ++ a.groups)
    | _, _ => parts.mapM group?

/-- Two colons stand for at least one group of zero. -/
def read? (cs : List Char) : Option (List Nat) :=
  match Text.splitAt? [':', ':'] cs with
  | none => (groups? true cs).filter (·.length == 8)
  | some (front, back) => do
    let head ← groups? false front
    let tail ← groups? true back
    if head.length + tail.length < 8 then
      return head ++ List.replicate (8 - head.length - tail.length) 0 ++ tail
    else none

structure Run where
  start : Nat
  size : Nat

def longestRun (n : Nat) : List Nat → Run
  | [] => ⟨n, 0⟩
  | g :: gs =>
    let here := ((g :: gs).takeWhile (· == 0)).length
    let later := longestRun (n + 1) gs
    if here < later.size then later else ⟨n, here⟩

def hexText (n : Nat) : String := String.ofList (Nat.toDigits 16 n)

def groupsText (gs : List Nat) : String := Text.join ":" (gs.map hexText)

def text (gs : List Nat) : String :=
  match gs with
  | [0, 0, 0, 0, 0, 65535, a, b] =>
    "::ffff:" ++ Ipv4.text ⟨[a / 256, a % 256, b / 256, b % 256]⟩
  | _ =>
    let run := longestRun 0 gs
    if run.size < 2 then groupsText gs
    else groupsText (gs.take run.start) ++ "::" ++ groupsText (gs.drop (run.start + run.size))

end Ipv6

namespace Host

def bracketed? (cs : List Char) : Option Host :=
  match Text.splitAt? ['%'] cs with
  | none => (Ipv6.read? cs).map fun gs => .v6 ⟨gs, 0⟩
  | some (front, zone) => do
    let gs ← Ipv6.read? front
    let n ← (Number.readDigits? zone).filter (· < Number.wordCount 32)
    return .v6 ⟨gs, n⟩

def read? (text : String) : Option Host :=
  match text.toList with
  | '[' :: rest =>
    if rest.getLast? = some ']' then bracketed? rest.dropLast else none
  | cs => (Ipv4.read? cs).map .v4

def text : Host → String
  | .v4 a => a.text
  | .v6 a =>
    "[" ++ Ipv6.text a.groups ++ (if a.zone = 0 then "" else "%" ++ toString a.zone) ++ "]"

end Host

structure Address where
  host : Host
  port : Nat
deriving DecidableEq, Repr, Inhabited

def Address.text (a : Address) : String := a.host.text ++ ":" ++ toString a.port

end LinkedRaces
