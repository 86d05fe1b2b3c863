import LinkedRaces.Lexical.Tokenizer
import LinkedRaces.Proofs.Lexical.Scanning
import LinkedRaces.Proofs.Text.Bytes

/-!
The tokenizer as it moves through the bytes of a text. A cursor stands at a byte position, and what
is read there is cut out of the text. It may stand at boundaries between characters only, and a
text may be cut there only: a scan that breaks this goes astray.
-/

namespace LinkedRaces.Cursor

open Scanner (isNameChar isWordChar isLocalChar isTagChar escaped? signMark)

inductive Halt
  /-- The cursor, or the end of a piece that is cut out, is at no boundary. -/
  | astray
  | fault (e : LexicalError)
deriving DecidableEq

/-- A scan moves the cursor and returns a value. -/
abbrev Scan (α : Type) := StateT Nat (Except Halt) α

section Moves

variable {α β : Type} {m : Scan α} {f : α → Scan β} {a : α} {pos pos' : Nat}

theorem bind_ok (h : m pos = .ok (a, pos')) : (m >>= f) pos = f a pos' := by
  simp [bind, StateT.bind, h, Except.bind]

theorem bind_error {e : Halt} (h : m pos = .error e) : (m >>= f) pos = .error e := by
  simp [bind, StateT.bind, h, Except.bind]

theorem bind_eq_ok {r : β × Nat} :
    (m >>= f) pos = .ok r ↔ ∃ a pos', m pos = .ok (a, pos') ∧ f a pos' = .ok r := by
  cases h : m pos with
  | error e => simp [bind, StateT.bind, h, Except.bind]
  | ok s =>
    obtain ⟨a, pos'⟩ := s
    rw [bind_ok h]
    refine ⟨fun heq => ⟨a, pos', rfl, heq⟩, ?_⟩
    rintro ⟨_, _, hs, heq⟩
    cases hs
    exact heq

theorem bind_get (f : Nat → Scan β) (pos : Nat) : (get >>= f) pos = f pos pos := rfl

theorem bind_lift {x : Except Halt α} (h : x = .ok a) (f : α → Scan β) (pos : Nat) :
    ((liftM x : Scan α) >>= f) pos = f a pos := by
  subst h
  rfl

end Moves

section

variable (text : List Char)

def restAt (pos : Nat) : Except Halt (List Char) :=
  match Text.cutAt? pos text with
  | some (_, rest) => .ok rest
  | none => .error .astray

def rest : Scan (List Char) := do restAt text (← get)

def cut (start stop : Nat) : Except Halt (List Char) :=
  match Text.slice? start stop text with
  | some piece => .ok piece
  | none => .error .astray

def moveTo (pos : Nat) : Scan Unit := do
  let _ ← restAt text pos
  set pos

def peek : Scan (Option Char) := return (← rest text).head?

def peekNth (n : Nat) : Scan (Option Char) := return (← rest text)[n]?

def bump : Scan (Option Char) := do
  match ← peek text with
  | some c => do
    moveTo text ((← get) + c.utf8Size)
    return some c
  | none => return none

def fail {α : Type} (start : Nat) (f : LexicalFault) : Scan α := do
  throw (.fault ⟨f, ← restAt text start⟩)

section

open Text (RestAt)

variable {text} {α : Type} {cs : List Char} {c : Char} {pos start : Nat}

theorem restAt_eq_ok_iff : restAt text pos = .ok cs ↔ RestAt text pos cs := by
  unfold restAt RestAt
  split
  next before rest hcut => simp [hcut]
  next hcut => simp [hcut]

theorem restAt_ok (h : RestAt text pos cs) : restAt text pos = .ok cs := restAt_eq_ok_iff.2 h

theorem rest_ok (h : RestAt text pos cs) : rest text pos = .ok (cs, pos) := by
  rw [rest, bind_get, restAt_ok h]
  rfl

theorem restAt_of_rest {p : Nat} (h : rest text pos = .ok (cs, p)) : RestAt text pos cs ∧ p = pos := by
  rw [rest, bind_get] at h
  cases hrest : restAt text pos with
  | error e =>
    rw [hrest] at h
    cases h
  | ok rest =>
    rw [hrest] at h
    cases h
    exact ⟨restAt_eq_ok_iff.1 hrest, rfl⟩

theorem cut_ok {piece : List Char} {stop : Nat} (h : RestAt text start (piece ++ cs))
    (hstop : RestAt text stop cs) : cut text start stop = .ok piece := by
  rw [cut, h.slice? hstop]

theorem moveTo_ok {p : Nat} (h : RestAt text p cs) : moveTo text p pos = .ok ((), p) := by
  rw [moveTo, bind_lift (restAt_ok h)]
  rfl

theorem eq_of_moveTo {u : Unit} {p p' : Nat} (h : moveTo text p pos = .ok (u, p')) : p' = p := by
  obtain ⟨_, _, hrest, hset⟩ := bind_eq_ok.1 h
  cases hset
  rfl

theorem peek_ok (h : RestAt text pos cs) : peek text pos = .ok (cs.head?, pos) := by
  rw [peek, bind_ok (rest_ok h)]
  rfl

theorem peekNth_ok (h : RestAt text pos cs) (n : Nat) : peekNth text n pos = .ok (cs[n]?, pos) := by
  rw [peekNth, bind_ok (rest_ok h)]
  rfl

theorem bump_cons (h : RestAt text pos (c :: cs)) :
    bump text pos = .ok (some c, pos + c.utf8Size) := by
  rw [bump, bind_ok (peek_ok h)]
  simp only [List.head?_cons, bind_get, bind_ok (moveTo_ok h.cons)]
  rfl

theorem bump_nil (h : RestAt text pos []) : bump text pos = .ok (none, pos) := by
  rw [bump, bind_ok (peek_ok h)]
  rfl

theorem le_of_bump {next : Option Char} {p : Nat} (h : bump text pos = .ok (next, p)) : pos ≤ p := by
  obtain ⟨_, _, hpeek, _⟩ := bind_eq_ok.1 h
  obtain ⟨cs, _, hrest, _⟩ := bind_eq_ok.1 hpeek
  obtain ⟨hpos, -⟩ := restAt_of_rest hrest
  cases cs with
  | nil =>
    cases (bump_nil hpos).symm.trans h
    exact Nat.le_refl pos
  | cons c cs =>
    cases (bump_cons hpos).symm.trans h
    exact Nat.le_add_right ..

theorem fail_ok (h : RestAt text start cs) (f : LexicalFault) (pos : Nat) :
    (fail text start f : Scan α) pos = .error (.fault ⟨f, cs⟩) := by
  rw [fail, bind_lift (restAt_ok h)]
  rfl

theorem fail_ne_ok {f : LexicalFault} {r : α × Nat} : fail text start f pos ≠ .ok r := by
  intro h
  obtain ⟨_, _, hrest, hthrow⟩ := bind_eq_ok.1 h
  cases hthrow

theorem lt_of_restAt (h : restAt text pos = .ok (c :: cs)) : pos < Text.utf8Size text := by
  have := (restAt_eq_ok_iff.1 h).add_utf8Size
  have := Text.utf8Size_pos (List.cons_ne_nil c cs)
  omega

end

def behindBlanks (inComment : Bool) (pos : Nat) : Except Halt Nat :=
  match _h : restAt text pos with
  | .error e => .error e
  | .ok [] => .ok pos
  | .ok (c :: _) =>
    if inComment then behindBlanks (c != '\n') (pos + c.utf8Size)
    else if Text.isBlank c then behindBlanks false (pos + c.utf8Size)
    else if c = '#' then behindBlanks true (pos + c.utf8Size)
    else .ok pos
termination_by Text.utf8Size text - pos
decreasing_by
  all_goals
    have := lt_of_restAt _h
    have := c.utf8Size_pos
    omega

def behindRun (p : Char → Bool) (pos : Nat) : Except Halt Nat :=
  match _h : restAt text pos with
  | .error e => .error e
  | .ok [] => .ok pos
  | .ok (c :: _) => if p c then behindRun p (pos + c.utf8Size) else .ok pos
termination_by Text.utf8Size text - pos
decreasing_by
  have := lt_of_restAt _h
  have := c.utf8Size_pos
  omega

def run (p : Char → Bool) : Scan (List Char) := do
  let start ← get
  let stop ← behindRun text p start
  moveTo text stop
  cut text start stop

/-- Moves back over the dots that end a word. The word is given from its end. -/
def giveBackDots : List Char → Scan (List Char)
  | [] => return []
  | c :: word =>
    if c = '.' then do
      moveTo text ((← get) - 1)
      giveBackDots word
    else return (c :: word).reverse

def dottedRun (p : Char → Bool) : Scan (List Char) := do
  giveBackDots text (← run text p).reverse

def word : Scan Token := do
  let label ← dottedRun text isWordChar
  if (← peek text) = some ':' then do
    let _ ← bump text
    return .prefixed (String.ofList label) (String.ofList (← dottedRun text isLocalChar))
  else return .word (String.ofList label)

def isSign (c : Char) : Bool := c == '+' || c == '-'

def skipSign : Scan Unit := do
  if (← peek text).any isSign then do
    let _ ← bump text
  else return

def fractionNext (cs : List Char) : Bool := cs.head? == some '.' && cs[1]?.any Char.isDigit

def skipFraction : Scan Bool := do
  if fractionNext (← rest text) then do
    let _ ← bump text
    let _ ← run text Char.isDigit
    return true
  else return false

def exponentNext (cs : List Char) : Bool :=
  cs.head?.any (fun e => e == 'e' || e == 'E') &&
    (cs[1]?.any Char.isDigit || cs[1]?.any isSign && cs[2]?.any Char.isDigit)

def skipExponent : Scan Bool := do
  if exponentNext (← rest text) then do
    let _ ← bump text
    skipSign text
    let _ ← run text Char.isDigit
    return true
  else return false

def number : Scan Token := do
  let start ← get
  skipSign text
  let _ ← run text Char.isDigit
  let decimal ← skipFraction text
  let double ← skipExponent text
  let digits := String.ofList (← cut text start (← get))
  return if double then .double digits else if decimal then .decimal digits else .integer digits

def reference? : Scan (Option (List Char)) := do
  let start ← get
  let body ← restAt text (start + 1)
  let stop := start + 1 + Text.utf8Size (body.takeWhile Scanner.isReferenceChar)
  if (← restAt text stop).head? = some '>' then do
    let reference ← cut text (start + 1) stop
    moveTo text (stop + 1)
    return some reference
  else return none

def named? (digits : Nat) (cs : List Char) : Option Char :=
  let hex := ((Text.cutAt? digits cs).map Prod.fst).getD []
  if Text.utf8Size hex = digits then (Scanner.hexNumber? hex).bind Number.scalar? else none

def unicode (digits start : Nat) : Scan Char := do
  match named? digits (← rest text) with
  | some c => do
    moveTo text ((← get) + digits)
    return c
  | none => fail text start .unicodeEscape

def escape (start : Nat) : Scan Char := do
  match ← bump text with
  | none => fail text start .escape
  | some c =>
    if c = 'u' then unicode text 4 start
    else if c = 'U' then unicode text 8 start
    else
      match escaped? c with
      | some e => return e
      | none => fail text start .escape

theorem le_of_unicode {text : List Char} {digits start pos p : Nat} {e : Char}
    (h : unicode text digits start pos = .ok (e, p)) : pos ≤ p := by
  obtain ⟨cs, _, hrest, hread⟩ := bind_eq_ok.1 h
  obtain ⟨-, rfl⟩ := restAt_of_rest hrest
  cases hnamed : named? digits cs with
  | none =>
    rw [hnamed] at hread
    exact absurd hread fail_ne_ok
  | some c =>
    simp only [hnamed, bind_get] at hread
    obtain ⟨_, _, hmove, hpure⟩ := bind_eq_ok.1 hread
    cases hpure
    rw [eq_of_moveTo hmove]
    exact Nat.le_add_right ..

theorem le_of_escape {text : List Char} {start pos p : Nat} {e : Char}
    (h : escape text start pos = .ok (e, p)) : pos ≤ p := by
  obtain ⟨next, _, hbump, hread⟩ := bind_eq_ok.1 h
  refine Nat.le_trans (le_of_bump hbump) ?_
  cases next with
  | none => exact absurd hread fail_ne_ok
  | some c =>
    simp only at hread
    split at hread
    · exact le_of_unicode hread
    · split at hread
      · exact le_of_unicode hread
      · cases he : escaped? c with
        | none =>
          rw [he] at hread
          exact absurd hread fail_ne_ok
        | some e' =>
          rw [he] at hread
          cases hread
          exact Nat.le_refl _

def threeQuotes (quote : Char) : List Char := [quote, quote, quote]

def stringFrom (quote : Char) (long : Bool) (start pos : Nat) : Except Halt (List Char × Nat) :=
  match _h : restAt text pos with
  | .error e => .error e
  | .ok [] => fail text start .unterminatedString pos
  | .ok (c :: rest) =>
    if long && (threeQuotes quote).isPrefixOf (c :: rest) then
      (do moveTo text (pos + 3); return []) pos
    else if c = quote && !long then (do let _ ← bump text; return []) pos
    else if (c = '\n' || c = '\r') && !long then fail text start .lineBreak pos
    else if c = '\\' then
      match _he : escape text start (pos + c.utf8Size) with
      | .error e => .error e
      | .ok (e, pos') => (stringFrom quote long start pos').map (Prod.map (e :: ·) id)
    else (stringFrom quote long start (pos + c.utf8Size)).map (Prod.map (c :: ·) id)
termination_by Text.utf8Size text - pos
decreasing_by
  all_goals
    have := lt_of_restAt _h
    have := c.utf8Size_pos
  · have := le_of_escape _he
    omega
  · omega

def string (quote : Char) : Scan Token := do
  let start ← get
  let long := (threeQuotes quote).isPrefixOf (← rest text)
  moveTo text (start + if long then 3 else 1)
  return .string (String.ofList (← stringFrom text quote long start))

def single (t : Token) : Scan Token := do
  let _ ← bump text
  return t

def either (second : Char) (long short : Mark) : Scan Token := do
  let _ ← bump text
  if (← peek text) = some second then single text (.mark long) else return .mark short

def token (comparing afterValue : Bool) (c : Char) : Scan Token := do
  let start ← get
  match Scanner.start c with
  | .angle => do
    match ← (if comparing then return none else reference? text) with
    | some body => return .iri (String.ofList body)
    | none => either text '=' .atMost .less
  | .quote => string text c
  | .sigil => do
    let _ ← bump text
    match ← run text isNameChar with
    | [] => if c = '$' then fail text start .variableName else return .mark .question
    | name => return .var (String.ofList name)
  | .at => do
    let _ ← bump text
    match ← run text isTagChar with
    | [] => fail text start .languageTag
    | tag => return .tag (String.ofList tag)
  | .underscore => do
    if (← peekNth text 1) = some ':' then do
      let _ ← bump text
      let _ ← bump text
      return .blank (String.ofList (← run text isNameChar))
    else fail text start (.unexpected c)
  | .digit => number text
  | .sign => do
    if (← peekNth text 1).any Char.isDigit && !afterValue then number text
    else single text (.mark (signMark c))
  | .dot => do
    if (← peekNth text 1).any Char.isDigit then number text else single text (.mark .dot)
  | .caret => either text '^' .doubleCaret .caret
  | .bang => either text '=' .notEqual .bang
  | .greater => either text '=' .atLeast .greater
  | .ampersand => do
    let _ ← bump text
    if (← bump text) = some '&' then return .mark .and else fail text start .secondAmpersand
  | .bar => either text '|' .or .bar
  | .mark m => single text (.mark m)
  | .word => word text
  | .other => fail text start (.unexpected c)

end

end LinkedRaces.Cursor
