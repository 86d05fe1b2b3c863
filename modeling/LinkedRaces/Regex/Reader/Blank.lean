import LinkedRaces.Regex.Unicode.Case
import LinkedRaces.Text.Basic

/-!
The flags under which a pattern, or a part of it, is read; and blanks and comments in extended
patterns, between items and in the middle of them.
-/

namespace LinkedRaces.Regex

structure Flags where
  ignoreCase : Bool := false
  multiLine : Bool := false
  dotAll : Bool := false
  /-- A question mark after a repetition makes it greedy, and nothing else does. -/
  swapGreed : Bool := false
  extended : Bool := false
  unicode : Bool := true
  crlf : Bool := false
deriving DecidableEq, Repr, Inhabited

namespace Flags

def fold (flags : Flags) (s : CharSet) : CharSet :=
  if !flags.ignoreCase then s else if flags.unicode then s.fold else s.foldAscii

/-- The complement, if it is asked for. Without Unicode a set has ASCII characters only, so that it
has none. -/
def negate? (flags : Flags) (negated : Bool) (s : CharSet) : Option CharSet :=
  if !negated then some s else if flags.unicode then some s.compl else none

def set? (flags : Flags) (value : Bool) : Char → Option Flags
  | 'i' => some { flags with ignoreCase := value }
  | 'm' => some { flags with multiLine := value }
  | 's' => some { flags with dotAll := value }
  | 'U' => some { flags with swapGreed := value }
  | 'x' => some { flags with extended := value }
  | 'u' => some { flags with unicode := value }
  | 'R' => some { flags with crlf := value }
  | _ => none

end Flags

end LinkedRaces.Regex

namespace LinkedRaces.Regex.Reader

def skipBlank (comment : Bool) : List Char → List Char
  | [] => []
  | c :: cs =>
    if comment then skipBlank (c != '\n') cs
    else if Text.isBlank c then skipBlank false cs
    else if c = '#' then skipBlank true cs
    else c :: cs

def skip (flags : Flags) (cs : List Char) : List Char :=
  if flags.extended then skipBlank false cs else cs

def skip? (flags : Flags) (cs : List Char) : Option (List Char) :=
  match skip flags cs with
  | [] => none
  | cs => some cs

def next? (flags : Flags) (cs : List Char) : Option (Char × List Char) :=
  match skip flags cs with
  | [] => none
  | c :: cs => some (c, skip flags cs)

def braced? (flags : Flags) (comment : Bool) : List Char → Option (List Char × List Char)
  | [] => none
  | c :: cs =>
    if comment then braced? flags (c != '\n') cs
    else if c = '\x7d' then some ([], cs)
    else if flags.extended && Text.isBlank c then braced? flags false cs
    else if flags.extended && c == '#' then braced? flags true cs
    else (braced? flags false cs).map fun (body, rest) => (c :: body, rest)

def digits (flags : Flags) (comment : Bool) : List Char → List Char × List Char
  | [] => ([], [])
  | c :: cs =>
    if comment then digits flags (c != '\n') cs
    else if c.isDigit then
      let (ds, rest) := digits flags false cs
      (c :: ds, rest)
    else if flags.extended && Text.isBlank c then digits flags false cs
    else if flags.extended && c == '#' then digits flags true cs
    else ([], c :: cs)

/-- The first character after blanks. The beginning of a comment is passed over, but not the rest of
it; what has nothing but blanks in it begins with one. -/
def glance (flags : Flags) (cs : List Char) : Option Char :=
  if !flags.extended then cs.head?
  else
    let front := cs.dropWhile Text.isBlank
    let front := if front.head? = some '#' then (front.drop 1).dropWhile Text.isBlank else front
    front.head?.or cs.head?

end LinkedRaces.Regex.Reader
