import LinkedRaces.Toml.Reader

/-!
TOML as text. A string stands between the first delimiters that need no escapes in it: double
quotes, single quotes, three double quotes, three single quotes. If all need some, it is escaped
between double quotes, three if it has several lines. A line break puts it on lines of its own.
-/

namespace LinkedRaces.Toml

def longestRun (c : Char) (cs : List Char) : Nat :=
  go 0 cs
where
  go (run : Nat) : List Char → Nat
    | [] => run
    | d :: ds => if d = c then go (run + 1) ds else max run (go 0 ds)

def isPrintable (cs : List Char) : Bool := cs.all fun c => c == '\n' || isPlain c

def fitsBasic (cs : List Char) : Bool :=
  cs.all fun c => isPlain c && c != '"' && c != '\\'

def fitsLiteral (cs : List Char) : Bool := cs.all fun c => isPlain c && c != '\''

def fitsLongBasic (cs : List Char) : Bool :=
  isPrintable cs && !cs.contains '\\' && longestRun '"' cs < 3

def fitsLongLiteral (cs : List Char) : Bool := isPrintable cs && longestRun '\'' cs < 3

def upperHexDigit (n : Nat) : Char := (Nat.digitChar (n % 16)).toUpper

def escapeChar (c : Char) : List Char :=
  match c with
  | '\x08' => ['\\', 'b']
  | '\t' => ['\\', 't']
  | '\n' => ['\\', 'n']
  | '\x0c' => ['\\', 'f']
  | '\r' => ['\\', 'r']
  | '"' => ['\\', '"']
  | '\\' => ['\\', '\\']
  | _ =>
    if isPlain c then [c]
    else ['\\', 'u', '0', '0', upperHexDigit (c.toNat / 16), upperHexDigit c.toNat]

def shortBody (cs : List Char) : List Char := cs.flatMap escapeChar

/-- Between three double quotes line breaks stand for themselves, and so do quotes, but for the
third in a row. -/
def longBody (quotes : Nat) : List Char → List Char
  | [] => []
  | c :: cs =>
    if c = '"' then
      if quotes < 2 then c :: longBody (quotes + 1) cs else '\\' :: c :: longBody 0 cs
    else (if c = '\n' then [c] else escapeChar c) ++ longBody 0 cs

def long (delimiter : String) (lines : Bool) (body : List Char) : String :=
  delimiter ++ (if lines then "\n" else "") ++ String.ofList body ++ delimiter

def doubleQuoted (text : String) : String := "\"" ++ String.ofList (shortBody text.toList) ++ "\""

def singleQuoted (text : String) : String := "'" ++ text ++ "'"

def quote (text : String) : String :=
  let cs := text.toList
  let lines := cs.contains '\n'
  if fitsBasic cs then doubleQuoted text
  else if fitsLiteral cs then singleQuoted text
  else if fitsLongBasic cs then long "\"\"\"" lines (longBody 0 cs)
  else if fitsLongLiteral cs then long "'''" lines cs
  else if lines then long "\"\"\"" lines (longBody 0 cs)
  else doubleQuoted text

def keyText (name : String) : String :=
  let cs := name.toList
  if !cs.isEmpty && cs.all isBareKeyChar then name
  else if !fitsBasic cs && fitsLiteral cs then singleQuoted name
  else doubleQuoted name

def line (name value : String) : String := keyText name ++ " = " ++ value ++ "\n"

def sectionText (name : String) (lines : List String) : String :=
  "[" ++ keyText name ++ "]\n" ++ String.join lines

end LinkedRaces.Toml
