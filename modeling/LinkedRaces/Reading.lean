/-! What a reader takes from the front of a list: a value and a rest that is certainly shorter. -/

namespace LinkedRaces

/-- A value, with the elements that remain of fewer than `bound`. -/
structure Reading (τ α : Type) (bound : Nat) where
  value : α
  rest : List τ
  shorter : rest.length < bound

namespace Reading

variable {τ α β : Type} {m n : Nat}

def map (f : α → β) (r : Reading τ α n) : Reading τ β n := ⟨f r.value, r.rest, r.shorter⟩

def weaken (r : Reading τ α m) (h : m ≤ n) : Reading τ α n :=
  ⟨r.value, r.rest, Nat.lt_of_lt_of_le r.shorter h⟩

def loosen (r : Reading τ α n) : Reading τ α (n + 1) := r.weaken (Nat.le_succ n)

def followedBy (r : Reading τ α n) (s : Reading τ β (r.rest.length + 1)) : Reading τ β n :=
  s.weaken r.shorter

def andThen (r : Reading τ α n) (s : Reading τ β r.rest.length) : Reading τ β n :=
  r.followedBy s.loosen

def stay (value : α) (l : List τ) : Reading τ α (l.length + 1) := ⟨value, l, Nat.lt_succ_self _⟩

def skip? (p : τ → Bool) (r : Reading τ α n) : Option (Reading τ α n) :=
  match r.rest, r.shorter with
  | [], _ => none
  | x :: rest, h => if p x then some ⟨r.value, rest, Nat.lt_of_succ_lt h⟩ else none

def skipAll (p : τ → Bool) (r : Reading τ α n) : Reading τ α n :=
  ⟨r.value, r.rest.dropWhile p, Nat.lt_of_le_of_lt (List.dropWhile_suffix p).length_le r.shorter⟩

/-- Keeps what was read from `cs` if at least one element was used up. -/
def advanced? (cs : List τ) (r : Option (α × List τ)) : Option (Reading τ α cs.length) :=
  r.bind fun (value, rest) => if h : rest.length < cs.length then some ⟨value, rest, h⟩ else none

end Reading

end LinkedRaces
