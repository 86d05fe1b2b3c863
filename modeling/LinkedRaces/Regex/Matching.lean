import LinkedRaces.Regex.Basic

/-!
Whether a regex matches somewhere in a text. The text is read once. After each character those
positions of the regex are marked at which the character may have been matched, so that the work
for a character grows with the regex only.
-/

namespace LinkedRaces.Regex

/-- A regex with marks on characters. A node that is not live has none in it. -/
inductive Marked
  | empty
  | char (set : CharSet) (mark : Bool)
  | boundary (b : Boundary)
  | seq (live : Bool) (r s : Marked)
  | alt (live : Bool) (r s : Marked)
  | star (live : Bool) (r : Marked)
deriving Repr, Inhabited

namespace Marked

def isLive : Marked → Bool
  | empty | boundary _ => false
  | char _ mark => mark
  | seq live _ _ | alt live _ _ | star live _ => live

def ofSeq (r s : Marked) : Marked := .seq (r.isLive || s.isLive) r s

def ofAlt (r s : Marked) : Marked := .alt (r.isLive || s.isLive) r s

def ofStar (r : Marked) : Marked := .star r.isLive r

def passes (p : Place) : Marked → Bool
  | empty | star _ _ => true
  | char _ _ => false
  | boundary b => b.holds p
  | seq _ r s => r.passes p && s.passes p
  | alt _ r s => r.passes p || s.passes p

def ends (p : Place) : Marked → Bool
  | empty | boundary _ => false
  | char _ mark => mark
  | seq live r s => live && (s.ends p || (r.ends p && s.passes p))
  | alt live r s => live && (r.ends p || s.ends p)
  | star live r => live && r.ends p

/-- The marks after one more character. If `enter` holds, a match may begin before it. -/
def advance (p : Place) (c : Char) (enter : Bool) : Marked → Marked
  | empty => .empty
  | boundary b => .boundary b
  | char set _ => .char set (enter && set.contains c)
  | seq live r s =>
    if !enter && !live then .seq live r s
    else ofSeq (r.advance p c enter) (s.advance p c (r.ends p || (enter && r.passes p)))
  | alt live r s =>
    if !enter && !live then .alt live r s
    else ofAlt (r.advance p c enter) (s.advance p c enter)
  | star live r =>
    if !enter && !live then .star live r else ofStar (r.advance p c (enter || r.ends p))

def copies (r : Marked) : Nat → Nat → Marked
  | 0, _ => .empty
  | depth + 1, n =>
    if n = 0 then .empty
    else if n = 1 then r
    else ofSeq (copies r depth (n / 2)) (copies r depth (n - n / 2))

def optional (r : Marked) : Marked := ofAlt .empty r

mutual

def ofRegex : Regex → Marked
  | .empty => .empty
  | .text cs => cs.foldr (fun c r => ofSeq (.char (.char c) false) r) .empty
  | .chars s => .char s false
  | .boundary b => .boundary b
  | .repeated least most _ r =>
    let r := ofRegex r
    let rest := match most with
      | some most => copies (optional r) (most - least) (most - least)
      | none => ofStar r
    ofSeq (copies r least least) rest
  | .group _ r => ofRegex r
  | .sequence rs => ofSequence rs
  | .choice rs => ofChoice rs

def ofSequence : List Regex → Marked
  | [] => .empty
  | r :: rs => ofSeq (ofRegex r) (ofSequence rs)

def ofChoice : List Regex → Marked
  | [] => .char .empty false
  | r :: rs => ofAlt (ofRegex r) (ofChoice rs)

end

def reaches (before : Option Char) (r : Marked) : List Char → Bool
  | [] => r.ends ⟨before, none⟩ || r.passes ⟨before, none⟩
  | c :: cs =>
    let p : Place := ⟨before, some c⟩
    r.ends p || r.passes p || (r.advance p c true).reaches (some c) cs

end Marked

def matchesIn (r : Regex) (text : String) : Bool := (Marked.ofRegex r).reaches none text.toList

end LinkedRaces.Regex
