/-!
Bytes as UTF-8 text. Bytes that begin no character are taken together as long as they could still
begin one.
-/

namespace LinkedRaces.Utf8

inductive Piece
  | char (c : Char) (size : Nat)
  | invalid (size : Nat)
  | incomplete
deriving DecidableEq, Repr, Inhabited

/-- What a first byte asks for: how many bytes follow, the bounds of the next one, and the bits that
it adds to the character. -/
structure Lead where
  following : Nat
  least : Nat
  greatest : Nat
  bits : Nat

/-- Sequences that would be longer than needed, surrogates and numbers out of range are excluded by
the bounds of the second byte. -/
def lead? (b : Nat) : Option Lead :=
  if b < 0x80 then some ⟨0, 0, 0, b⟩
  else if b < 0xC2 then none
  else if b < 0xE0 then some ⟨1, 0x80, 0xBF, b - 0xC0⟩
  else if b = 0xE0 then some ⟨2, 0xA0, 0xBF, 0⟩
  else if b = 0xED then some ⟨2, 0x80, 0x9F, 0xD⟩
  else if b < 0xF0 then some ⟨2, 0x80, 0xBF, b - 0xE0⟩
  else if b = 0xF0 then some ⟨3, 0x90, 0xBF, 0⟩
  else if b < 0xF4 then some ⟨3, 0x80, 0xBF, b - 0xF0⟩
  else if b = 0xF4 then some ⟨3, 0x80, 0x8F, 4⟩
  else none

def follow (size bits : Nat) : Nat → Nat → Nat → List UInt8 → Piece
  | 0, _, _, _ => .char (Char.ofNat bits) size
  | _ + 1, _, _, [] => .incomplete
  | n + 1, least, greatest, b :: bs =>
    if least ≤ b.toNat ∧ b.toNat ≤ greatest then
      follow (size + 1) (bits * 64 + b.toNat % 64) n 0x80 0xBF bs
    else .invalid size

def front (b : UInt8) (bs : List UInt8) : Piece :=
  match lead? b.toNat with
  | some l => follow 1 l.bits l.following l.least l.greatest bs
  | none => .invalid 1

def pieces (bytes : List UInt8) : List Piece :=
  match bytes with
  | [] => []
  | b :: bs =>
    match front b bs with
    | .char c size => .char c size :: pieces (bs.drop (size - 1))
    | .invalid size => .invalid size :: pieces (bs.drop (size - 1))
    | .incomplete => [.incomplete]
termination_by bytes.length

inductive Fault
  | invalid (index size : Nat)
  | incomplete (index : Nat)
deriving DecidableEq, Repr, Inhabited

def Fault.message : Fault → String
  | invalid index size =>
    "invalid utf-8 sequence of " ++ toString size ++ " bytes from index " ++ toString index
  | incomplete index => "incomplete utf-8 byte sequence from index " ++ toString index

def characters (index : Nat) : List Piece → Except Fault (List Char)
  | [] => .ok []
  | .char c size :: rest => (characters (index + size) rest).map (c :: ·)
  | .invalid size :: _ => .error (.invalid index size)
  | .incomplete :: _ => .error (.incomplete index)

def decode (bytes : List UInt8) : Except Fault String :=
  (characters 0 (pieces bytes)).map String.ofList

def Piece.replaced : Piece → Char
  | char c _ => c
  | invalid _ | incomplete => '\ufffd'

def decodeReplacing (bytes : List UInt8) : String :=
  String.ofList ((pieces bytes).map Piece.replaced)

def encode (text : String) : List UInt8 := text.toUTF8.toList

end LinkedRaces.Utf8
