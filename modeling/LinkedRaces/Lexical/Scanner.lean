import LinkedRaces.Lexical.Token
import LinkedRaces.Number.Integer
import LinkedRaces.Reading
import LinkedRaces.Text.Alphabetic

/-!
From text to tokens. Each scanner takes a token from the front of the text and returns a shorter
rest. Two decisions look back: a sign directly before a digit belongs to the number unless a value
has just ended, and inside parentheses an angle bracket after a value compares.
-/

namespace LinkedRaces

inductive LexicalFault
  | variableName
  | languageTag
  | secondAmpersand
  | unexpected (c : Char)
  | unterminatedString
  | lineBreak
  | escape
  | unicodeEscape
deriving DecidableEq, Repr, Inhabited

def LexicalFault.message : LexicalFault → String
  | variableName => "Expected variable name"
  | languageTag => "Expected language tag"
  | secondAmpersand => "Expected '&&'"
  | unexpected c => "Unexpected character '" ++ c.toString ++ "'"
  | unterminatedString => "Unterminated string literal"
  | lineBreak => "Line break in string literal"
  | escape => "Invalid escape sequence"
  | unicodeEscape => "Invalid unicode escape"

namespace Scanner

def skipFrom : Bool → List Char → List Char
  | _, [] => []
  | true, c :: cs => skipFrom (c != '\n') cs
  | false, c :: cs =>
    if Text.isBlank c then skipFrom false cs
    else if c = '#' then skipFrom true cs
    else c :: cs

def skipBlanks (cs : List Char) : List Char := skipFrom false cs

theorem length_skipFrom_le (inComment : Bool) (cs : List Char) :
    (skipFrom inComment cs).length ≤ cs.length := by
  fun_induction skipFrom inComment cs <;> grind

theorem length_skipBlanks_le (cs : List Char) : (skipBlanks cs).length ≤ cs.length :=
  length_skipFrom_le ..

def isNameChar (c : Char) : Bool := Text.isAlphanumeric c || c == '_'

def isWordChar (c : Char) : Bool := isNameChar c || c == '-' || c == '.'

def isLocalChar (c : Char) : Bool := isWordChar c || c == '%'

def isTagChar (c : Char) : Bool := c.isAlphanum || c == '-'

/-- The longest run of such characters that does not end in a dot: a dot at the end of a word ends
the statement. -/
def dottedRun (p : Char → Bool) (cs : List Char) : List Char :=
  ((cs.takeWhile p).reverse.dropWhile (· == '.')).reverse

def afterRun (p : Char → Bool) (cs : List Char) : List Char := cs.drop (dottedRun p cs).length

def word (cs : List Char) : Token × List Char :=
  let head := dottedRun isWordChar cs
  match afterRun isWordChar cs with
  | ':' :: rest =>
    (.prefixed (String.ofList head) (String.ofList (dottedRun isLocalChar rest)),
      afterRun isLocalChar rest)
  | rest => (.word (String.ofList head), rest)

def fraction : List Char → List Char
  | '.' :: d :: rest => if d.isDigit then '.' :: d :: rest.takeWhile Char.isDigit else []
  | _ => []

def exponentDigits : List Char → List Char
  | [] => []
  | d :: rest =>
    if d.isDigit then d :: rest.takeWhile Char.isDigit
    else if d = '+' ∨ d = '-' then
      match rest.takeWhile Char.isDigit with
      | [] => []
      | ds => d :: ds
    else []

def exponent : List Char → List Char
  | [] => []
  | e :: rest =>
    if e = 'e' ∨ e = 'E' then
      match exponentDigits rest with
      | [] => []
      | ds => e :: ds
    else []

def number (sign cs : List Char) : Token × List Char :=
  let whole := cs.takeWhile Char.isDigit
  let rest := cs.dropWhile Char.isDigit
  let frac := fraction rest
  let rest := rest.drop frac.length
  let exp := exponent rest
  let text := String.ofList (sign ++ whole ++ frac ++ exp)
  (if exp ≠ [] then .double text else if frac ≠ [] then .decimal text else .integer text,
    rest.drop exp.length)

def endsReference (c : Char) : Bool :=
  Text.isBlank c || c == '<' || c == '"' || c == '\x7b' || c == '\x7d' || c == '|' || c == '^' ||
    c == '\x60'

def reference? : List Char → Option (List Char × List Char)
  | [] => none
  | c :: rest =>
    if c = '>' then some ([], rest)
    else if endsReference c then none
    else (reference? rest).map fun (body, rest) => (c :: body, rest)

/-- Hexadecimal digits, of which the first may be a plus sign instead. -/
def hexNumber? : List Char → Option Nat
  | '+' :: d :: ds => Number.readHex? (d :: ds)
  | ds => Number.readHex? ds

def numbered (count : Nat) (cs : List Char) : Except LexicalFault Char :=
  if cs.length < count then .error .unicodeEscape
  else
    match (hexNumber? (cs.take count)).bind Number.scalar? with
    | some c => .ok c
    | none => .error .unicodeEscape

def escaped? : Char → Option Char
  | 't' => some '\t'
  | 'n' => some '\n'
  | 'r' => some '\r'
  | 'b' => some '\x08'
  | 'f' => some '\x0c'
  | '"' => some '"'
  | '\'' => some '\''
  | '\\' => some '\\'
  | _ => none

def escape (cs : List Char) : Except LexicalFault (Reading Char Char cs.length) :=
  match cs with
  | [] => .error .escape
  | c :: rest =>
    if c = 'u' then
      (numbered 4 rest).map fun e => ⟨e, rest.drop 4, by grind⟩
    else if c = 'U' then
      (numbered 8 rest).map fun e => ⟨e, rest.drop 8, by grind⟩
    else
      match escaped? c with
      | some e => .ok ⟨e, rest, by simp⟩
      | none => .error .escape

def shortString (quote : Char) (cs : List Char) :
    Except LexicalFault (List Char × List Char) :=
  match cs with
  | [] => .error .unterminatedString
  | c :: rest =>
    if c = quote then .ok ([], rest)
    else if c = '\n' ∨ c = '\r' then .error .lineBreak
    else if c = '\\' then do
      let ⟨e, rest', _⟩ ← escape rest
      let (body, rest'') ← shortString quote rest'
      .ok (e :: body, rest'')
    else do
      let (body, rest') ← shortString quote rest
      .ok (c :: body, rest')
termination_by cs.length

def longString (quote : Char) (cs : List Char) :
    Except LexicalFault (List Char × List Char) :=
  match cs with
  | [] => .error .unterminatedString
  | c :: rest =>
    if c = quote ∧ rest.take 2 = [quote, quote] then .ok ([], rest.drop 2)
    else if c = '\\' then do
      let ⟨e, rest', _⟩ ← escape rest
      let (body, rest'') ← longString quote rest'
      .ok (e :: body, rest'')
    else do
      let (body, rest') ← longString quote rest
      .ok (c :: body, rest')
termination_by cs.length

def stringBody (quote : Char) (cs : List Char) : Except LexicalFault (List Char × List Char) :=
  if cs.take 2 = [quote, quote] then longString quote (cs.drop 2) else shortString quote cs

def string (quote : Char) (cs : List Char) : Except LexicalFault (Token × List Char) := do
  let (body, rest) ← stringBody quote cs
  .ok (.string (String.ofList body), rest)

inductive Start
  | angle | quote | sigil | at | underscore | digit | sign | dot | caret | bang | greater
  | ampersand | bar
  | mark (m : Mark)
  | word
  | other
deriving DecidableEq

def startOfMark : Char → Option Mark
  | '\x7b' => some .openBrace
  | '\x7d' => some .closeBrace
  | '(' => some .openParen
  | ')' => some .closeParen
  | '[' => some .openBracket
  | ']' => some .closeBracket
  | ';' => some .semicolon
  | ',' => some .comma
  | '*' => some .star
  | '/' => some .slash
  | '=' => some .equal
  | _ => none

def startOfOther : Char → Start
  | '<' => .angle
  | '"' | '\'' => .quote
  | '?' | '$' => .sigil
  | '@' => .at
  | '_' => .underscore
  | '+' | '-' => .sign
  | '.' => .dot
  | '^' => .caret
  | '!' => .bang
  | '>' => .greater
  | '&' => .ampersand
  | '|' => .bar
  | _ => .other

def start (c : Char) : Start :=
  if c = ':' ∨ Text.isAlphabetic c then .word
  else if c.isDigit then .digit
  else
    match startOfMark c with
    | some m => .mark m
    | none => startOfOther c

def signMark (c : Char) : Mark := if c = '+' then .plus else .minus

def beginsWithDigit : List Char → Bool
  | [] => false
  | d :: _ => d.isDigit

def either (second : Char) (long short : Mark) : List Char → Token × List Char
  | [] => (.mark short, [])
  | c :: rest => if c = second then (.mark long, rest) else (.mark short, c :: rest)

/-- The token that begins with `c`, and the rest. `comparing` says that an angle bracket compares
here, `afterValue` that a value has just ended. -/
def tokenAfter (comparing afterValue : Bool) (c : Char) (rest : List Char) :
    Except LexicalFault (Token × List Char) :=
  match start c with
  | .angle =>
    match if comparing then none else reference? rest with
    | some (body, rest) => .ok (.iri (String.ofList body), rest)
    | none => .ok (either '=' .atMost .less rest)
  | .quote => string c rest
  | .sigil =>
    match rest.takeWhile isNameChar with
    | [] => if c = '$' then .error .variableName else .ok (.mark .question, rest)
    | name => .ok (.var (String.ofList name), rest.dropWhile isNameChar)
  | .at =>
    match rest.takeWhile isTagChar with
    | [] => .error .languageTag
    | tag => .ok (.tag (String.ofList tag), rest.dropWhile isTagChar)
  | .underscore =>
    match rest with
    | ':' :: rest =>
      .ok (.blank (String.ofList (rest.takeWhile isNameChar)), rest.dropWhile isNameChar)
    | _ => .error (.unexpected c)
  | .digit => .ok (number [] (c :: rest))
  | .sign =>
    if beginsWithDigit rest && !afterValue then .ok (number [c] rest)
    else .ok (.mark (signMark c), rest)
  | .dot => if beginsWithDigit rest then .ok (number [] (c :: rest)) else .ok (.mark .dot, rest)
  | .caret => .ok (either '^' .doubleCaret .caret rest)
  | .bang => .ok (either '=' .notEqual .bang rest)
  | .greater => .ok (either '=' .atLeast .greater rest)
  | .ampersand =>
    match rest with
    | '&' :: rest => .ok (.mark .and, rest)
    | _ => .error .secondAmpersand
  | .bar => .ok (either '|' .or .bar rest)
  | .mark m => .ok (.mark m, rest)
  | .word => .ok (word (c :: rest))
  | .other => .error (.unexpected c)

end Scanner

end LinkedRaces
