import LinkedRaces.Regex.Matching
import LinkedRaces.Regex.Reader

/-!
Patterns of filters. A pattern holds the regex that its text and its flags describe, so that the
text and the flags alone tell two patterns apart.
-/

namespace LinkedRaces

namespace TextPattern

def knownFlags : List Char := ['i', 's', 'm', 'x']

def readingFlags (flags : String) : Regex.Flags :=
  let has (c : Char) := flags.toList.contains c
  { ignoreCase := has 'i', multiLine := has 'm', dotAll := has 's', extended := has 'x' }

end TextPattern

structure TextPattern where
  pattern : String
  flags : String
  regex : Regex
  compiles : Regex.compile (TextPattern.readingFlags flags) pattern = .ok regex

namespace TextPattern

theorem ext {p q : TextPattern} (hp : p.pattern = q.pattern) (hf : p.flags = q.flags) : p = q := by
  obtain ⟨a, b, r, hr⟩ := p
  obtain ⟨c, d, s, hs⟩ := q
  cases hp
  cases hf
  obtain rfl : r = s := Except.ok.inj (hr.symm.trans hs)
  rfl

theorem ext_iff {p q : TextPattern} : p = q ↔ p.pattern = q.pattern ∧ p.flags = q.flags :=
  ⟨fun h => h ▸ ⟨rfl, rfl⟩, fun h => ext h.1 h.2⟩

instance : DecidableEq TextPattern := fun _ _ => decidable_of_iff _ ext_iff.symm

instance : Repr TextPattern := ⟨fun p _ => repr (p.pattern, p.flags)⟩

def compile (pattern flags : String) : Except Regex.Fault TextPattern :=
  match h : Regex.compile (readingFlags flags) pattern with
  | .ok r => .ok ⟨pattern, flags, r, h⟩
  | .error fault => .error fault

def matchesIn (p : TextPattern) (text : String) : Bool := p.regex.matchesIn text

end TextPattern

end LinkedRaces
