import LinkedRaces.Text.Range

/-! Operations on text. A blank is a character with the Unicode property White_Space. -/

namespace LinkedRaces.Text

def blankRanges : List (Nat × Nat) := [
  (9, 13), (32, 32), (133, 133), (160, 160), (5760, 5760), (8192, 8202), (8232, 8233), (8239, 8239),
  (8287, 8287), (12288, 12288)]

def isBlank (c : Char) : Bool := inRanges blankRanges c.toNat

def isControl (c : Char) : Bool := c.toNat < 32 || (127 ≤ c.toNat && c.toNat < 160)

def trimStart (cs : List Char) : List Char := cs.dropWhile isBlank

def trimEnd (cs : List Char) : List Char := (cs.reverse.dropWhile isBlank).reverse

def trimChars (cs : List Char) : List Char := trimEnd (trimStart cs)

def trim (s : String) : String := String.ofList (trimChars s.toList)

def dropBeginning? : List Char → List Char → Option (List Char)
  | [], cs => some cs
  | _ :: _, [] => none
  | b :: bs, c :: cs => if b = c then dropBeginning? bs cs else none

theorem dropBeginning?_eq_some_iff {bs cs rest : List Char} :
    dropBeginning? bs cs = some rest ↔ cs = bs ++ rest := by
  induction bs generalizing cs with
  | nil => simp [dropBeginning?]
  | cons b bs ih =>
    cases cs with
    | nil => simp [dropBeginning?]
    | cons c cs => by_cases h : b = c <;> grind [dropBeginning?]

def occursIn (needle : List Char) : List Char → Bool
  | [] => needle.isEmpty
  | c :: cs => needle.isPrefixOf (c :: cs) || occursIn needle cs

def splitAt? (sep : List Char) : List Char → Option (List Char × List Char)
  | [] => if sep = [] then some ([], []) else none
  | c :: cs =>
    match dropBeginning? sep (c :: cs) with
    | some rest => some ([], rest)
    | none => (splitAt? sep cs).map fun (before, after) => (c :: before, after)

def splitAfterLast? (c : Char) : List Char → Option (List Char × List Char)
  | [] => none
  | d :: ds =>
    match splitAfterLast? c ds with
    | some (before, after) => some (d :: before, after)
    | none => if d = c then some ([d], ds) else none

def splitAll (isSep : Char → Bool) : List Char → List (List Char)
  | [] => [[]]
  | c :: cs =>
    if isSep c then [] :: splitAll isSep cs
    else
      match splitAll isSep cs with
      | [] => [[c]]
      | part :: parts => (c :: part) :: parts

def utf8Size : List Char → Nat
  | [] => 0
  | c :: cs => c.utf8Size + utf8Size cs

def dropBytes : Nat → List Char → List Char
  | 0, cs => cs
  | _, [] => []
  | n + 1, c :: cs => dropBytes (n + 1 - c.utf8Size) cs

/-- Texts are ordered by code points, which is also the order of their UTF-8 bytes. -/
def order (a b : String) : Ordering := compare a.toList b.toList

def eqIgnoringCase (a b : String) : Bool := a.toList.map Char.toLower == b.toList.map Char.toLower

def join (sep : String) (parts : List String) : String := sep.intercalate parts

end LinkedRaces.Text
