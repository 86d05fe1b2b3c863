import LinkedRaces.Lexical.Tokens

/-!
Readers of tokens. `Takes read ts value follow` says that `read` takes the tokens `ts` from the
front and returns `value`, wherever they stand and whatever follows that satisfies `follow`. Lists
with separators take what their items take.
-/

namespace LinkedRaces

variable {ε α : Type}

def Takes (read : TokenReader ε α) (ts : List Token) (value : α) (follow : Tokens → Prop) : Prop :=
  ∀ ls rest : Tokens, ls.map Located.token = ts → follow rest →
    ∃ h, read (ls ++ rest) = .ok ⟨value, rest, h⟩

def Anything (_ : Tokens) : Prop := True

def NextIsNot (p : Token → Prop) (rest : Tokens) : Prop := ∀ x ∈ rest.head?, ¬ p x.token

theorem nextIsNot_cons {p : Token → Prop} {x : Located} (h : ¬ p x.token) (rest : Tokens) :
    NextIsNot p (x :: rest) := by
  simpa [NextIsNot] using h

namespace Takes

variable {read : TokenReader ε α} {ts us : List Token} {value : α} {follow goal : Tokens → Prop}

theorem mono (h : Takes read ts value follow) (hg : ∀ rest, goal rest → follow rest) :
    Takes read ts value goal :=
  fun ls rest hls hrest => h ls rest hls (hg rest hrest)

theorem single {t : Token} (h : ∀ text rest, follow rest →
    read (⟨t, text⟩ :: rest) = Tokens.took value ⟨t, text⟩ rest) :
    Takes read [t] value follow := by
  intro ls rest hls hrest
  obtain ⟨⟨_, text⟩, rfl, rfl⟩ := List.map_eq_singleton_iff.1 hls
  exact ⟨_, h text rest hrest⟩

end Takes

namespace Tokens

theorem takes_mark (m : Mark) (fault : Tokens → ε) :
    Takes (mark m fault) [.mark m] () Anything :=
  .single fun text rest _ => by simp [mark]

def sepBy (m : Mark) (items : List (List Token)) : List Token := [.mark m].intercalate items

theorem map_eq_sepBy {m : Mark} {a b : List Token} {items : List (List Token)} {ls : Tokens}
    (h : ls.map Located.token = sepBy m (a :: b :: items)) :
    ∃ l₁ text l₂, ls = l₁ ++ ⟨.mark m, text⟩ :: l₂ ∧ l₁.map Located.token = a ∧
      l₂.map Located.token = sepBy m (b :: items) := by
  rw [sepBy, List.intercalate_cons_cons, List.append_assoc, List.singleton_append] at h
  obtain ⟨l₁, lm, rfl, h₁, hm⟩ := List.map_eq_append_iff.1 h
  obtain ⟨⟨_, text⟩, l₂, rfl, rfl, h₂⟩ := List.map_eq_cons_iff.1 hm
  exact ⟨l₁, text, l₂, rfl, h₁, h₂⟩

theorem skip?_of_nextIsNot {m : Mark} {n : Nat} {r : Reading Located α n}
    (h : NextIsNot (· = .mark m) r.rest) : r.skip? (isMark m) = none := by
  obtain ⟨value, rest, hlt⟩ := r
  cases rest with
  | nil => rfl
  | cons x rest =>
    have hx : ¬ x.token = .mark m := h x rfl
    simp [Reading.skip?, isMark, hx]

theorem skip?_mark (m : Mark) {n : Nat} (value : α) (text : List Char) (rest : Tokens)
    (h : (⟨.mark m, text⟩ :: rest : Tokens).length < n) :
    (⟨value, ⟨.mark m, text⟩ :: rest, h⟩ : Reading Located α n).skip? (isMark m) =
      some ⟨value, rest, Nat.lt_of_succ_lt h⟩ := by
  simp [Reading.skip?, isMark]

theorem takes_commaSeparated_one {item : TokenReader ε α} {ts : List Token} {value : α}
    {follow : Tokens → Prop} (h : Takes item ts value follow) :
    Takes (commaSeparated item) ts [value] fun rest =>
      follow rest ∧ NextIsNot (· = .mark .comma) rest := by
  intro ls rest hls ⟨hrest, hstop⟩
  obtain ⟨hlt, hread⟩ := h ls rest hls hrest
  refine ⟨hlt, ?_⟩
  have hskip : (⟨value, rest, hlt⟩ : Reading Located α _).skip? (isMark .comma) = none :=
    skip?_of_nextIsNot hstop
  rw [commaSeparated, hread]
  simp only [bind, Except.bind, hskip]
  rfl

theorem takes_commaSeparated {item : TokenReader ε α} {follow : Tokens → Prop}
    (hcomma : ∀ text rest, follow (⟨.mark .comma, text⟩ :: rest))
    {items : List (List Token × α)} (hne : items ≠ [])
    (h : ∀ i ∈ items, Takes item i.1 i.2 follow) :
    Takes (commaSeparated item) (sepBy .comma (items.map Prod.fst)) (items.map Prod.snd)
      fun rest => follow rest ∧ NextIsNot (· = .mark .comma) rest := by
  induction items with
  | nil => exact absurd rfl hne
  | cons i items ih =>
    have hi := h i List.mem_cons_self
    cases items with
    | nil => simpa [sepBy] using takes_commaSeparated_one hi
    | cons j items =>
      intro ls rest hls ⟨hrest, hstop⟩
      obtain ⟨l₁, text, l₂, rfl, h₁, h₂⟩ := map_eq_sepBy hls
      obtain ⟨hlt, hread⟩ := hi l₁ (⟨.mark .comma, text⟩ :: (l₂ ++ rest)) h₁ (hcomma _ _)
      obtain ⟨hlt', hmore⟩ := ih (by simp) (fun k hk => h k (List.mem_cons_of_mem i hk)) l₂ rest h₂
        ⟨hrest, hstop⟩
      rw [List.append_assoc, List.cons_append]
      refine ⟨by grind, ?_⟩
      rw [commaSeparated, hread]
      simp only [bind, Except.bind, skip?_mark]
      rw [hmore]
      rfl

/-- The tokens of a part begin with one that is no semicolon, and after which the parts go on. -/
def BeginsPart (atEnd : Tokens → Bool) (ts : List Token) : Prop :=
  ∃ t us, ts = t :: us ∧ t ≠ .mark .semicolon ∧ ∀ text rest, atEnd (⟨t, text⟩ :: rest) = false

theorem takes_semicolonSeparated_one {part : TokenReader ε (List α)} (atEnd : Tokens → Bool)
    {ts : List Token} {values : List α} {follow : Tokens → Prop}
    (h : Takes part ts values follow) :
    Takes (semicolonSeparated part atEnd) ts values fun rest =>
      follow rest ∧ NextIsNot (· = .mark .semicolon) rest := by
  intro ls rest hls ⟨hrest, hstop⟩
  obtain ⟨hlt, hread⟩ := h ls rest hls hrest
  refine ⟨hlt, ?_⟩
  have hskip : (⟨values, rest, hlt⟩ : Reading Located (List α) _).skip? (isMark .semicolon) = none :=
    skip?_of_nextIsNot hstop
  rw [semicolonSeparated, hread]
  simp only [bind, Except.bind, hskip, Option.map_none]
  rfl

theorem takes_semicolonSeparated {part : TokenReader ε (List α)} {atEnd : Tokens → Bool}
    {follow : Tokens → Prop} (hsemi : ∀ text rest, follow (⟨.mark .semicolon, text⟩ :: rest))
    {parts : List (List Token × List α)} (hne : parts ≠ [])
    (hbegin : ∀ p ∈ parts, BeginsPart atEnd p.1) (h : ∀ p ∈ parts, Takes part p.1 p.2 follow) :
    Takes (semicolonSeparated part atEnd) (sepBy .semicolon (parts.map Prod.fst))
      (parts.flatMap Prod.snd)
      fun rest => follow rest ∧ NextIsNot (· = .mark .semicolon) rest := by
  induction parts with
  | nil => exact absurd rfl hne
  | cons p parts ih =>
    have hp := h p List.mem_cons_self
    cases parts with
    | nil => simpa [sepBy] using takes_semicolonSeparated_one atEnd hp
    | cons q parts =>
      intro ls rest hls ⟨hrest, hstop⟩
      obtain ⟨l₁, text, l₂, rfl, h₁, h₂⟩ := map_eq_sepBy hls
      obtain ⟨hlt, hread⟩ := hp l₁ (⟨.mark .semicolon, text⟩ :: (l₂ ++ rest)) h₁ (hsemi _ _)
      obtain ⟨hlt', hmore⟩ := ih (by simp) (fun k hk => hbegin k (List.mem_cons_of_mem p hk))
        (fun k hk => h k (List.mem_cons_of_mem p hk)) l₂ rest h₂ ⟨hrest, hstop⟩
      -- the next part starts directly behind the semicolon
      obtain ⟨t, us, hq, ht, hend⟩ := hbegin q (by simp)
      obtain ⟨text', l₃, rfl⟩ : ∃ text' l₃, l₂ = ⟨t, text'⟩ :: l₃ := by
        have hhead : ∃ vs, sepBy .semicolon ((q :: parts).map Prod.fst) = t :: vs := by
          cases parts <;> simp [sepBy, hq]
        obtain ⟨vs, hvs⟩ := hhead
        have h₂' : l₂.map Located.token = t :: vs := h₂.trans hvs
        obtain ⟨⟨_, text'⟩, l₃, rfl, rfl, -⟩ := List.map_eq_cons_iff.1 h₂'
        exact ⟨text', l₃, rfl⟩
      rw [List.append_assoc, List.cons_append]
      refine ⟨by simp at hlt' ⊢; omega, ?_⟩
      rw [semicolonSeparated, hread]
      simp only [bind, Except.bind, skip?_mark, Option.map_some, Reading.skipAll, List.cons_append,
        List.dropWhile_cons, isMark, beq_iff_eq, ht, if_false, hend, Bool.false_eq_true]
      simp only [List.cons_append] at hmore
      rw [hmore]
      rfl

end Tokens

end LinkedRaces
