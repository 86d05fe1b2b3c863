import LinkedRaces.Number.Integer
import LinkedRaces.Regex.Reader.Blank
import LinkedRaces.Regex.Reader.Bracket
import LinkedRaces.Regex.Size
import LinkedRaces.Text.Alphabetic

/-!
The syntax of patterns: alternation, repetition, groups with flags, bracketed sets with operations,
escapes, and Unicode properties. There is no look-around and no back-reference; a pattern that asks
for them, or is malformed, is refused, and so is one whose regex is too large.
-/

namespace LinkedRaces.Regex

namespace Reader

/-- Flags up to a colon or the closing parenthesis, with that sign. A flag is set at most once, and
a hyphen turns off those after it. -/
def flags? (flags : Flags) (seen : List Char) (value : Bool) :
    List Char → Option (Flags × Char × List Char)
  | [] => none
  | c :: rest =>
    if c = ':' ∨ c = ')' then
      if seen.head? = some '-' then none else some (flags, c, rest)
    else if seen.contains c then none
    else if c = '-' then flags? flags ('-' :: seen) false rest
    else
      match flags.set? value c with
      | some flags => flags? flags (c :: seen) value rest
      | none => none

def isGroupName : List Char → Bool
  | [] => false
  | c :: rest =>
    (c == '_' || Text.isAlphabetic c) &&
      rest.all fun d => d == '_' || d == '.' || d == '[' || d == ']' || Text.isAlphanumeric d

inductive GroupStart
  | numbered
  | named (name : String)
  | plain (flags : Flags)
  | flags (flags : Flags)
deriving Repr, Inhabited

def groupName? (cs : List Char) : Option (GroupStart × List Char) :=
  let name := cs.takeWhile (· != '>')
  match cs.dropWhile (· != '>') with
  | _ :: rest => if isGroupName name then some (.named (String.ofList name), rest) else none
  | [] => none

def groupStart? (flags : Flags) (cs : List Char) : Option (GroupStart × List Char) :=
  match skip flags cs with
  | '?' :: 'P' :: '<' :: rest => groupName? rest
  | '?' :: '<' :: '=' :: _ | '?' :: '<' :: '!' :: _ => none
  | '?' :: '<' :: rest => groupName? rest
  | '?' :: ')' :: _ => none
  | '?' :: rest =>
    (flags? flags [] true rest).map fun (flags, sign, rest) =>
      (if sign = ':' then .plain flags else .flags flags, rest)
  | cs => some (.numbered, cs)

structure Repetition where
  least : Nat
  most : Option Nat
  greedy : Bool
deriving DecidableEq, Repr, Inhabited

def greed (flags : Flags) : List Char → Bool × List Char
  | '?' :: rest => (flags.swapGreed, rest)
  | cs => (!flags.swapGreed, cs)

def count? (flags : Flags) (cs : List Char) : Option (Option Nat × List Char) :=
  let (ds, rest) := digits flags false (cs.dropWhile Text.isBlank)
  let rest := rest.dropWhile Text.isBlank
  match Number.readDigits? ds with
  | some n => if n < Number.wordCount 32 then some (some n, rest) else none
  | none => some (none, rest)

def bounds? (flags : Flags) (cs : List Char) : Option ((Nat × Option Nat) × List Char) := do
  let (least, rest) ← count? flags (← skip? flags cs)
  let least ← least
  let (bounds, rest) ← match rest with
    | ',' :: rest => do
      let rest ← skip? flags rest
      if rest.head? = some '\x7d' then some ((least, none), rest)
      else
        let (most, rest) ← count? flags rest
        some ((least, some (← most)), rest)
    | rest => some ((least, some least), rest)
  match rest with
  | '\x7d' :: rest => if bounds.2.all (least ≤ ·) then return (bounds, rest) else none
  | _ => none

/-- The repetition that begins with a sign or a brace. Blanks may stand before a question mark only
after braces. -/
def repetition? (flags : Flags) (sign : Char) (cs : List Char) :
    Option (Repetition × List Char) := do
  let ((least, most), rest) ← match sign with
    | '?' => some ((0, some 1), cs)
    | '*' => some ((0, none), cs)
    | '+' => some ((1, none), cs)
    | _ => (bounds? flags cs).map fun (bounds, rest) => (bounds, skip flags rest)
  let (greedy, rest) := greed flags rest
  return (⟨least, most, greedy⟩, rest)

/-- An item of a branch, with how deeply it is nested. What only sets flags cannot be repeated. -/
inductive Item
  | regex (r : Nested Regex)
  | flags
deriving Repr, Inhabited

namespace Item

def regex? : Item → Option Regex
  | regex r => some r.value
  | flags => none

def depth : Item → Nat
  | regex r => r.depth
  | flags => 0

end Item

/-- A group that is being read: its number, its flags, the branches before the last, and the items
of the last; both are in reverse. -/
structure Level where
  number : Option Nat
  flags : Flags
  branches : List (Nested Regex)
  items : List Item
deriving Repr, Inhabited

namespace Level

def start (number : Option Nat) (flags : Flags) : Level := ⟨number, flags, [], []⟩

def add (l : Level) (r : Regex) (depth : Nat) : Level :=
  { l with items := .regex ⟨r, depth⟩ :: l.items }

def branch (l : Level) : Nested Regex :=
  ⟨.ofSequence (l.items.reverse.filterMap (·.regex?)), depthOf (l.items.map (·.depth))⟩

def nextBranch (l : Level) : Level := { l with branches := l.branch :: l.branches, items := [] }

def content (l : Level) : Nested Regex :=
  let all := l.branch :: l.branches
  match all with
  | [r] => r
  | _ => ⟨.ofChoice nestLimit (all.reverse.map (·.value)), depthOf (all.map (·.depth))⟩

def close (l : Level) : Nested Regex :=
  let c := l.content
  ⟨match l.number with
    | some n => .group n c.value
    | none => c.value, c.depth + 1⟩

def repeat? (l : Level) (n : Repetition) : Option Level :=
  match l.items with
  | .regex r :: rest =>
    let again := Regex.ofRepetition n.least n.most n.greedy r.value
    some { l with items := .regex ⟨again, r.depth + 1⟩ :: rest }
  | _ => none

end Level

def dot? (flags : Flags) : Option Regex :=
  if !flags.unicode then none
  else if flags.dotAll then some (.chars .any)
  else if flags.crlf then some (.chars (CharSet.ofRanges [(10, 10), (13, 13)]).compl)
  else some (.chars (CharSet.char '\n').compl)

def lineStart (flags : Flags) : Boundary :=
  if !flags.multiLine then .textStart else if flags.crlf then .lineStartCrlf else .lineStart

def lineEnd (flags : Flags) : Boundary :=
  if !flags.multiLine then .textEnd else if flags.crlf then .lineEndCrlf else .lineEnd

def ofEscape (flags : Flags) : Escape → Regex
  | .char c => .ofSet (flags.fold (.char c))
  | .set s => .ofSet s
  | .boundary b => .boundary b

def atom? (flags : Flags) (c : Char) (cs : List Char) : Option (Nested Regex × List Char) :=
  match c with
  | '[' => (set? flags cs).map fun (s, rest) => (⟨.ofSet s.value, s.depth⟩, rest)
  | '.' => (dot? flags).map fun r => (⟨r, 0⟩, cs)
  | '^' => some (⟨.boundary (lineStart flags), 0⟩, cs)
  | '$' => some (⟨.boundary (lineEnd flags), 0⟩, cs)
  | '\\' => (escape? flags cs).map fun (e, rest) => (⟨ofEscape flags e, 0⟩, rest)
  | c => some (⟨ofEscape flags (.char c), 0⟩, cs)

structure Reading where
  level : Level
  outer : List Level
  groups : Nat
  names : List String
deriving Repr, Inhabited

namespace Reading

def onLevel (x : Reading) (l : Level) : Reading := { x with level := l }

def openGroup (x : Reading) (l : Level) : Reading :=
  { x with level := l, outer := x.level :: x.outer }

def openNumbered (x : Reading) : Reading :=
  { x.openGroup (.start (some (x.groups + 1)) x.level.flags) with groups := x.groups + 1 }

def start? (x : Reading) : GroupStart → Option Reading
  | .numbered => some x.openNumbered
  | .named name =>
    if x.names.contains name then none
    else some { x.openNumbered with names := name :: x.names }
  | .plain flags => some (x.openGroup (.start none flags))
  | .flags flags =>
    some (x.onLevel { x.level with flags := flags, items := .flags :: x.level.items })

def closeGroup? (x : Reading) : Option Reading :=
  match x.outer with
  | [] => none
  | parent :: outer =>
    some { x with level := parent.add x.level.close.value x.level.close.depth, outer := outer }

def step? (x : Reading) (c : Char) (cs : List Char) : Option (Reading × List Char) :=
  match c with
  | '(' => do
    let (s, rest) ← groupStart? x.level.flags cs
    return (← x.start? s, rest)
  | ')' => x.closeGroup?.map (·, cs)
  | '|' => some (x.onLevel x.level.nextBranch, cs)
  | '?' | '*' | '+' | '\x7b' => do
    let (n, rest) ← repetition? x.level.flags c cs
    return (x.onLevel (← x.level.repeat? n), rest)
  | c => do
    let (r, rest) ← atom? x.level.flags c cs
    return (x.onLevel (x.level.add r.value r.depth), rest)

def run? (x : Reading) : Nat → List Char → Option (Nested Regex)
  | 0, _ => none
  | rounds + 1, cs =>
    match skip x.level.flags cs with
    | [] => if x.outer.isEmpty then some x.level.content else none
    | c :: rest =>
      match x.step? c rest with
      | some (x, rest) => run? x rounds rest
      | none => none

end Reading

end Reader

def read? (flags : Flags) (pattern : String) : Option Regex :=
  let cs := pattern.toList
  let start : Reader.Reading := ⟨.start none flags, [], 0, []⟩
  match start.run? (cs.length + 1) cs with
  | some r => if r.depth ≤ nestLimit then some r.value else none
  | none => none

inductive Fault
  | malformed
  | tooLarge
deriving DecidableEq, Repr, Inhabited

def Fault.message (pattern : String) : Fault → String
  | malformed => "regex parse error:\n    " ++ pattern
  | tooLarge =>
    "Compiled regex exceeds size limit of " ++ toString Automaton.greatestSize ++ " bytes."

def compile (flags : Flags) (pattern : String) : Except Fault Regex :=
  match read? flags pattern with
  | some r => if r.fits then .ok r else .error .tooLarge
  | none => .error .malformed

end LinkedRaces.Regex
