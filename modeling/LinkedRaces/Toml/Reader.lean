import LinkedRaces.Toml.Scalar
import LinkedRaces.Toml.Table

/-!
TOML documents: statements on lines of their own, which are read first and then put together.
Lists may spread over lines, tables in braces may not. Names in a row and containers in one another
are limited in number.
-/

namespace LinkedRaces.Toml

def longestKey : Nat := 79

def deepestNesting : Nat := 79

def isBareKeyChar (c : Char) : Bool := c.isAlphanum || c == '_' || c == '-'

def skipComment : List Char → List Char
  | '#' :: rest => rest.dropWhile isPlain
  | cs => cs

theorem length_skipSpace_le (cs : List Char) : (skipSpace cs).length ≤ cs.length :=
  (List.dropWhile_suffix _).length_le

def skipTrivia (cs : List Char) : List Char :=
  match cs with
  | [] => []
  | c :: rest =>
    if isSpace c then skipTrivia rest
    else if c = '#' then
      have := (List.dropWhile_suffix isPlain (l := rest)).length_le
      skipTrivia (rest.dropWhile isPlain)
    else
      match hline : newline? (c :: rest) with
      | some rest' =>
        have : rest'.length ≤ rest.length := Nat.le_of_lt_succ (length_newline?_lt hline)
        skipTrivia rest'
      | none => c :: rest
termination_by cs.length

theorem length_skipTrivia_le (cs : List Char) : (skipTrivia cs).length ≤ cs.length := by
  fun_induction skipTrivia cs with
  | case1 => simp
  | case2 => grind
  | case3 rest ih =>
    have := (List.dropWhile_suffix isPlain (l := rest)).length_le
    grind
  | case4 c rest _ _ rest' hline ih =>
    have := length_newline?_lt hline
    omega
  | case5 => simp

def name? (cs : List Char) : Option (String × List Char) :=
  match cs with
  | '"' :: rest => (shortString basic rest).map fun (body, rest) => (String.ofList body, rest)
  | '\'' :: rest => (shortString literal rest).map fun (body, rest) => (String.ofList body, rest)
  | _ =>
    if (cs.takeWhile isBareKeyChar).isEmpty then none
    else some (String.ofList (cs.takeWhile isBareKeyChar), cs.dropWhile isBareKeyChar)

def names? : Nat → List Char → Option (List String × List Char)
  | 0, _ => none
  | room + 1, cs => do
    let (name, rest) ← name? (skipSpace cs)
    match skipSpace rest with
    | '.' :: rest =>
      let (more, rest) ← names? room rest
      return (name :: more, rest)
    | rest => return ([name], rest)

def key? (cs : List Char) : Option (Key × List Char) := do
  let (path, rest) ← names? longestKey cs
  path.getLast?.map fun name => (⟨path.dropLast, name⟩, rest)

def assigned? (cs : List Char) : Option (Key × List Char) := do
  match ← key? cs with
  | (key, '=' :: rest) => return (key, rest)
  | _ => none

def separator? (closing : Char) : List Char → Option (Bool × List Char)
  | [] => none
  | c :: rest =>
    if c = ',' then some (true, rest) else if c = closing then some (false, rest) else none

def itemThen? {α : Type} (item : List Char → Option (α × List Char))
    (skip : List Char → List Char) (closing : Char) (cs : List Char) :
    Option ((α × Bool) × List Char) := do
  let (a, rest) ← item cs
  let (more, rest) ← separator? closing (skip rest)
  return ((a, more), rest)

def listItems? (value : List Char → Option (Toml × List Char)) (cs : List Char) :
    Option (List Toml × List Char) :=
  if (skipTrivia cs).head? = some ']' then some ([], (skipTrivia cs).tail)
  else do
    let r ← Reading.advanced? cs (itemThen? value skipTrivia ']' (skipTrivia cs))
    if r.value.2 then (listItems? value r.rest).map fun (more, rest) => (r.value.1 :: more, rest)
    else return ([r.value.1], r.rest)
termination_by cs.length
decreasing_by exact r.shorter

def field? (value : List Char → Option (Toml × List Char)) (cs : List Char) :
    Option ((Key × Toml) × List Char) := do
  let (key, rest) ← assigned? cs
  let (v, rest) ← value rest
  return ((key, v), rest)

def tableFields? (value : List Char → Option (Toml × List Char)) (cs : List Char) :
    Option (List (Key × Toml) × List Char) := do
  let r ← Reading.advanced? cs (itemThen? (field? value) skipSpace '\x7d' cs)
  if r.value.2 then (tableFields? value r.rest).map fun (more, rest) => (r.value.1 :: more, rest)
  else return ([r.value.1], r.rest)
termination_by cs.length
decreasing_by exact r.shorter

def inlineTable? (value : List Char → Option (Toml × List Char)) (cs : List Char) :
    Option (Toml × List Char) :=
  match skipSpace cs with
  | '\x7d' :: rest => some (.table .inline [], rest)
  | _ => do
    let (fields, rest) ← tableFields? value cs
    return (.table .inline (← defineAll fields []), rest)

def value? : Nat → List Char → Option (Toml × List Char)
  | 0, cs => scalar? (skipSpace cs)
  | room + 1, cs =>
    match skipSpace cs with
    | '[' :: rest => (listItems? (value? room) rest).map fun (items, rest) => (.array items, rest)
    | '\x7b' :: rest => inlineTable? (value? room) rest
    | rest => scalar? rest

def lineEnd? (cs : List Char) : Option (List Char) :=
  match skipComment (skipSpace cs) with
  | [] => some []
  | rest => newline? rest

def header? (closing : List Char) (cs : List Char) : Option (Key × List Char) := do
  let (key, rest) ← key? cs
  (Text.dropBeginning? closing rest).map (key, ·)

def statement? (cs : List Char) : Option (Statement × List Char) :=
  match cs with
  | '[' :: '[' :: rest => (header? [']', ']'] rest).map fun (key, rest) => (.item key, rest)
  | '[' :: rest => (header? [']'] rest).map fun (key, rest) => (.table key, rest)
  | _ => do
    let (key, rest) ← assigned? cs
    let (value, rest) ← value? deepestNesting rest
    return (.entry key value, rest)

def statements (cs : List Char) : Option (List Statement) :=
  match h : skipTrivia cs with
  | [] => some []
  | c :: front => do
    have _ : (c :: front).length ≤ cs.length := h ▸ length_skipTrivia_le cs
    let ⟨s, rest, _⟩ ← Reading.advanced? (c :: front) (do
      let (s, rest) ← statement? (c :: front)
      (lineEnd? rest).map (s, ·))
    (statements rest).map (s :: ·)
termination_by cs.length

def read? (text : String) : Option Entries :=
  let cs := match text.toList with
    | '\ufeff' :: rest => rest
    | cs => cs
  (statements cs).bind assemble

end LinkedRaces.Toml
