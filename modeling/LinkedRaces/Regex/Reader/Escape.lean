import LinkedRaces.Number.Integer
import LinkedRaces.Regex.Basic
import LinkedRaces.Regex.Reader.Blank
import LinkedRaces.Regex.Unicode.Property

/-! What a backslash and the characters after it stand for. -/

namespace LinkedRaces.Regex.Reader

inductive Escape
  | char (c : Char)
  | set (s : CharSet)
  | boundary (b : Boundary)
deriving Repr, Inhabited

def hexDigits? (flags : Flags) : Nat → List Char → Option (List Char × List Char)
  | 0, cs => some ([], cs)
  | n + 1, cs => do
    let (c, rest) ← next? flags cs
    let (ds, rest) ← hexDigits? flags n rest
    return (c :: ds, rest)

/-- A character by its number: in braces, or with a fixed count of digits. Without Unicode, two
digits name a byte, which is no character if it is not ASCII. -/
def numbered? (flags : Flags) (count : Nat) (cs : List Char) : Option (Char × List Char) := do
  let cs ← skip? flags cs
  let (ds, rest) ← match cs with
    | '\x7b' :: rest => braced? flags false rest
    | cs => hexDigits? flags count cs
  let c ← (Number.readHex? ds).bind Number.scalar?
  let isByte := count == 2 && cs.head? != some '\x7b'
  if isByte && !flags.unicode && 128 ≤ c.toNat then none else some (c, rest)

def cutAt? (sign : List Char) : List Char → Option (List Char × List Char)
  | [] => none
  | c :: cs =>
    if sign.isPrefixOf (c :: cs) then some ([], (c :: cs).drop sign.length)
    else (cutAt? sign cs).map fun (name, value) => (c :: name, value)

def propertyText? (body : List Char) : Option (Bool × CharSet) :=
  match cutAt? ['!', '='] body, cutAt? [':'] body, cutAt? ['='] body with
  | some (kind, value), _, _ => (Property.valued? kind value).map (true, ·)
  | none, some (kind, value), _ | none, none, some (kind, value) =>
    (Property.valued? kind value).map (false, ·)
  | none, none, none => (Property.named? body).map (false, ·)

def property? (flags : Flags) (negated : Bool) (cs : List Char) :
    Option (CharSet × List Char) := do
  let (c, rest) ← match skip flags cs with
    | [] => none
    | c :: rest => some (c, rest)
  let (body, rest) ← if c = '\x7b' then braced? flags false rest else some ([c], rest)
  let (denied, s) ← propertyText? body
  if !flags.unicode then none
  let s ← flags.negate? (negated != denied) (flags.fold s)
  return (s, rest)

def asciiDigit : CharSet := .range '0' '9'

def asciiSpace : CharSet := .ofRanges [(9, 13), (32, 32)]

def shorthand? (flags : Flags) (negated : Bool) (unicode ascii : CharSet) : Option CharSet :=
  flags.negate? negated (if flags.unicode then unicode else ascii)

def isNamePart (c : Char) : Bool := c.isAlpha || c == '-'

def specialBoundary? (unicode : Bool) : String → Option Boundary
  | "start" => some (.wordStart unicode)
  | "end" => some (.wordEnd unicode)
  | "start-half" => some (.wordStartHalf unicode)
  | "end-half" => some (.wordEndHalf unicode)
  | _ => none

/-- A word boundary, which a name in braces may narrow. Braces with anything else in them are a
repetition. -/
def wordBoundary? (flags : Flags) (cs : List Char) : Option (Boundary × List Char) :=
  match cs with
  | '\x7b' :: rest => do
    if ← (skip? flags rest).map fun cs => cs.head?.any isNamePart then
      let (name, rest) ← braced? flags false rest
      return (← specialBoundary? flags.unicode (String.ofList name), rest)
    else return (.word flags.unicode, cs)
  | _ => some (.word flags.unicode, cs)

def isEscapable (c : Char) : Bool := c.toNat < 128 && !c.isAlphanum && c != '<' && c != '>'

def controlEscape? : Char → Option Char
  | 'a' => some '\x07'
  | 'f' => some '\x0c'
  | 't' => some '\t'
  | 'n' => some '\n'
  | 'r' => some '\r'
  | 'v' => some '\x0b'
  | _ => none

def escape? (flags : Flags) : List Char → Option (Escape × List Char)
  | [] => none
  | c :: rest =>
    let set (s : Option CharSet) := s.map fun s => (Escape.set s, rest)
    let place (b : Boundary) := some (Escape.boundary b, rest)
    match c with
    | 'd' => set (shorthand? flags false Category.decimalNumber asciiDigit)
    | 'D' => set (shorthand? flags true Category.decimalNumber asciiDigit)
    | 's' => set (shorthand? flags false BinaryProperty.whiteSpace asciiSpace)
    | 'S' => set (shorthand? flags true BinaryProperty.whiteSpace asciiSpace)
    | 'w' => set (shorthand? flags false BinaryProperty.word asciiWord)
    | 'W' => set (shorthand? flags true BinaryProperty.word asciiWord)
    | 'p' => (property? flags false rest).map fun (s, rest) => (.set s, rest)
    | 'P' => (property? flags true rest).map fun (s, rest) => (.set s, rest)
    | 'x' => (numbered? flags 2 rest).map fun (c, rest) => (.char c, rest)
    | 'u' => (numbered? flags 4 rest).map fun (c, rest) => (.char c, rest)
    | 'U' => (numbered? flags 8 rest).map fun (c, rest) => (.char c, rest)
    | 'A' => place .textStart
    | 'z' => place .textEnd
    | 'b' => (wordBoundary? flags rest).map fun (b, rest) => (.boundary b, rest)
    | 'B' => place (.notWord flags.unicode)
    | '<' => place (.wordStart flags.unicode)
    | '>' => place (.wordEnd flags.unicode)
    | _ =>
      match controlEscape? c with
      | some e => some (.char e, rest)
      | none => if isEscapable c then some (.char c, rest) else none

end LinkedRaces.Regex.Reader
