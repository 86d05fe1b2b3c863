import LinkedRaces.Number.Decimal
import LinkedRaces.Number.Integer
import LinkedRaces.Reading
import LinkedRaces.Toml.Table

/-! Strings, numbers, truth values and times as TOML writes them. -/

namespace LinkedRaces.Toml

def isSpace (c : Char) : Bool := c == ' ' || c == '\t'

def skipSpace (cs : List Char) : List Char := cs.dropWhile isSpace

def isPlain (c : Char) : Bool := c == '\t' || (32 ≤ c.toNat && c != '\x7f')

def newline? : List Char → Option (List Char)
  | '\n' :: rest | '\r' :: '\n' :: rest => some rest
  | _ => none

theorem length_newline?_lt {cs rest : List Char} (h : newline? cs = some rest) :
    rest.length < cs.length := by
  unfold newline? at h
  split at h <;> grind

def escaped? : Char → Option Char
  | 'b' => some '\x08'
  | 't' => some '\t'
  | 'n' => some '\n'
  | 'f' => some '\x0c'
  | 'r' => some '\r'
  | '"' => some '"'
  | '\\' => some '\\'
  | _ => none

def numbered? (count : Nat) (cs : List Char) : Option (Char × List Char) :=
  if cs.length < count then none
  else ((Number.readHex? (cs.take count)).bind Number.scalar?).map (·, cs.drop count)

def escape? : List Char → Option (Char × List Char)
  | 'u' :: rest => numbered? 4 rest
  | 'U' :: rest => numbered? 8 rest
  | c :: rest => (escaped? c).map (·, rest)
  | [] => none

structure Quoting where
  quote : Char
  escapes : Bool

def basic : Quoting := ⟨'"', true⟩

def literal : Quoting := ⟨'\'', false⟩

def shortString (q : Quoting) (cs : List Char) : Option (List Char × List Char) :=
  match cs with
  | [] => none
  | c :: rest =>
    if c = q.quote then some ([], rest)
    else if c = '\\' ∧ q.escapes then do
      let ⟨e, rest', _⟩ ← Reading.advanced? rest (escape? rest)
      let (body, rest'') ← shortString q rest'
      return (e :: body, rest'')
    else if isPlain c then do
      let (body, rest') ← shortString q rest
      return (c :: body, rest')
    else none
termination_by cs.length

def skipLines : List Char → List Char
  | [] => []
  | '\n' :: rest | '\r' :: '\n' :: rest => skipLines rest
  | c :: rest => if isSpace c then skipLines rest else c :: rest

theorem length_skipLines_le (cs : List Char) : (skipLines cs).length ≤ cs.length := by
  fun_induction skipLines cs <;> grind

def joinedLine? (cs : List Char) : Option (List Char) := (newline? (skipSpace cs)).map skipLines

theorem length_joinedLine?_lt {cs rest : List Char} (h : joinedLine? cs = some rest) :
    rest.length < cs.length := by
  obtain ⟨line, hline, rfl⟩ := Option.map_eq_some_iff.1 h
  have h₁ := length_newline?_lt hline
  have h₂ := length_skipLines_le line
  have h₃ := (List.dropWhile_suffix isSpace (l := cs)).length_le
  unfold skipSpace at h₁
  omega

/-- How many of a run of quotes belong to the string that the run closes. -/
def innerQuotes (run : Nat) : Nat := min (run - 3) 2

/-- A string after its three opening quotes, up to the last three quotes of a run. -/
def longString (q : Quoting) (cs : List Char) : Option (List Char × List Char) :=
  match cs with
  | [] => none
  | c :: rest =>
    if c = q.quote then
      let run := (cs.takeWhile (· == q.quote)).length
      if run < 3 then do
        let (body, rest') ← longString q rest
        return (c :: body, rest')
      else some (List.replicate (innerQuotes run) c, cs.drop (innerQuotes run + 3))
    else if c = '\\' ∧ q.escapes then
      match h : joinedLine? rest with
      | some rest' =>
        have := length_joinedLine?_lt h
        longString q rest'
      | none => do
        let ⟨e, rest', _⟩ ← Reading.advanced? rest (escape? rest)
        let (body, rest'') ← longString q rest'
        return (e :: body, rest'')
    else
      match h : newline? (c :: rest) with
      | some rest' => do
        have : rest'.length ≤ rest.length := Nat.le_of_lt_succ (length_newline?_lt h)
        let (body, rest'') ← longString q rest'
        return ('\n' :: body, rest'')
      | none =>
        if isPlain c then do
          let (body, rest') ← longString q rest
          return (c :: body, rest')
        else none
termination_by cs.length

def stringAfter (q : Quoting) (cs : List Char) : Option (List Char × List Char) :=
  if cs.take 2 = [q.quote, q.quote] then
    longString q ((newline? (cs.drop 2)).getD (cs.drop 2))
  else shortString q cs

def string? : List Char → Option (String × List Char)
  | '"' :: rest => (stringAfter basic rest).map fun (body, rest) => (String.ofList body, rest)
  | '\'' :: rest => (stringAfter literal rest).map fun (body, rest) => (String.ofList body, rest)
  | _ => none

def grouped? (isDigit : Char → Bool) (cs : List Char) : Option (List Char) :=
  let groups := Text.splitAll (· == '_') cs
  if groups.all fun g => !g.isEmpty && g.all isDigit then some groups.flatten else none

def isBinaryDigit (c : Char) : Bool := c == '0' || c == '1'

def isOctalDigit (c : Char) : Bool := '0' ≤ c && c ≤ '7'

def isHexDigit (c : Char) : Bool := (Number.hexValue? c).isSome

def ofDigitsIn (base : Nat) (ds : List Char) : Nat :=
  ds.foldl (fun n d => base * n + (Number.hexValue? d).getD 0) 0

def whole? (cs : List Char) : Option (List Char) :=
  (grouped? Char.isDigit cs).filter fun ds => ds.head? != some '0' || cs.length == 1

def integer? : List Char → Option Int
  | '0' :: 'x' :: ds => within (grouped? isHexDigit ds) 16
  | '0' :: 'o' :: ds => within (grouped? isOctalDigit ds) 8
  | '0' :: 'b' :: ds => within (grouped? isBinaryDigit ds) 2
  | cs => do
    let ds ← whole? (Number.signed cs).2
    Number.readInt64? (if (Number.signed cs).1 then '-' :: ds else ds)
where
  within (ds : Option (List Char)) (base : Nat) : Option Int :=
    ((ds.map (ofDigitsIn base)).filter (· < Number.wordCount 63)).map Int.ofNat

def isExponentMark (c : Char) : Bool := c == 'e' || c == 'E'

def fractional? (cs : List Char) : Option (List Char) := do
  let mantissa := cs.takeWhile (!isExponentMark ·)
  let whole ← whole? (mantissa.takeWhile (· != '.'))
  let fraction ← match mantissa.dropWhile (· != '.') with
    | [] => some []
    | _ :: ds => (grouped? Char.isDigit ds).map ('.' :: ·)
  let exponent ← match cs.dropWhile (!isExponentMark ·) with
    | [] => some []
    | _ :: ds => (grouped? Char.isDigit (Number.signed ds).2).map fun digits =>
      'e' :: (if (Number.signed ds).1 then '-' :: digits else digits)
  if fraction.isEmpty && exponent.isEmpty then none else return whole ++ fraction ++ exponent

/-- A float without underscores. One that is too large must be negative or spelled as a word. -/
def float? (cs : List Char) : Option String :=
  let (negative, body) := Number.signed cs
  let sign := if negative then "-" else ""
  if body = "inf".toList ∨ body = "nan".toList then some (sign ++ String.ofList body)
  else (fractional? body).bind fun ds =>
    match Number.readFloat? Number.binary64 ds with
    | some (.number x) =>
      if x.magnitude < Number.binary64.infinity || negative then some (sign ++ String.ofList ds)
      else none
    | _ => none

def twoDigits? (least greatest : Nat) (a b : Char) : Option Nat :=
  (Number.readDigits? [a, b]).filter fun n => least ≤ n && n ≤ greatest

def isLeapYear (year : Nat) : Bool := year % 4 == 0 && (year % 100 != 0 || year % 400 == 0)

def daysIn (year month : Nat) : Nat :=
  if month = 2 then (if isLeapYear year then 29 else 28)
  else if month = 4 ∨ month = 6 ∨ month = 9 ∨ month = 11 then 30
  else 31

def date? : List Char → Option (List Char)
  | y₁ :: y₂ :: y₃ :: y₄ :: '-' :: m₁ :: m₂ :: '-' :: d₁ :: d₂ :: rest => do
    let year ← Number.readDigits? [y₁, y₂, y₃, y₄]
    let month ← twoDigits? 1 12 m₁ m₂
    let _ ← twoDigits? 1 (daysIn year month) d₁ d₂
    return rest
  | _ => none

def clock? : List Char → Option (List Char)
  | h₁ :: h₂ :: ':' :: m₁ :: m₂ :: ':' :: s₁ :: s₂ :: rest => do
    let _ ← twoDigits? 0 23 h₁ h₂
    let _ ← twoDigits? 0 59 m₁ m₂
    let _ ← twoDigits? 0 60 s₁ s₂
    match rest with
    | '.' :: fraction =>
      if (fraction.takeWhile Char.isDigit).isEmpty then none
      else return fraction.dropWhile Char.isDigit
    | _ => return rest
  | _ => none

def isOffset : List Char → Bool
  | [] | ['Z'] | ['z'] => true
  | [sign, h₁, h₂, ':', m₁, m₂] =>
    (sign == '+' || sign == '-') && (twoDigits? 0 23 h₁ h₂).isSome && (twoDigits? 0 59 m₁ m₂).isSome
  | _ => false

def isMoment (cs : List Char) : Bool :=
  match date? cs with
  | some [] => true
  | some (mark :: rest) =>
    (mark == 'T' || mark == 't' || mark == ' ') && (clock? rest).any isOffset
  | none => clock? cs == some []

def endsBare (c : Char) : Bool :=
  isSpace c || c == '\n' || c == '\r' || c == ',' || c == ']' || c == '\x7d' || c == '#'

/-- A time of day may stand after a date and one space. -/
def bareLength (cs : List Char) : Nat :=
  let first := (cs.takeWhile (!endsBare ·)).length
  match cs.drop first with
  | ' ' :: h₁ :: h₂ :: ':' :: rest =>
    if date? cs = some (cs.drop first) && h₁.isDigit && h₂.isDigit then
      first + 4 + (rest.takeWhile (!endsBare ·)).length
    else first
  | _ => first

def bare? (cs : List Char) : Option Toml :=
  if cs = "true".toList then some (.bool true)
  else if cs = "false".toList then some (.bool false)
  else if isMoment cs then some (.moment (String.ofList cs))
  else
    match integer? cs with
    | some n => some (.integer n)
    | none => (float? cs).map .float

def scalar? (cs : List Char) : Option (Toml × List Char) :=
  match cs with
  | '"' :: _ | '\'' :: _ => (string? cs).map fun (text, rest) => (.string text, rest)
  | _ => (bare? (cs.take (bareLength cs))).map (·, cs.drop (bareLength cs))

end LinkedRaces.Toml
