import LinkedRaces.Lexical.Tokenizer
import LinkedRaces.Proofs.Lexical.Taking

/-!
Two readers side by side, on lists of tokens that a relation connects. The second follows the first
if it returns something related wherever the first returns something; it may be allowed to fail
instead. Lists with separators follow one another if their items do.

Where the second list has the tokens of the first with more behind them, a closing brace first, the
second reader takes as much wherever the first takes something, and simulates it.
-/

namespace LinkedRaces

/-- Wherever the first has a result, `V` relates one of the second to it; else the second fails, and
`bad` holds. -/
def Follows {ε ε' α β : Type} (bad : Prop) (V : α → β → Prop) (x : Except ε α)
    (y : Except ε' β) : Prop :=
  ∀ a, x = .ok a → (∃ b, y = .ok b ∧ V a b) ∨ bad ∧ ∃ e, y = .error e

namespace Follows

variable {ε ε' α β γ δ : Type} {bad : Prop} {V : α → β → Prop} {W : γ → δ → Prop}

theorem error (e : ε) (y : Except ε' β) : Follows bad V (.error e) y := nofun

theorem ok {a : α} {b : β} (h : V a b) :
    Follows bad V (.ok a : Except ε α) (.ok b : Except ε' β) := by
  rintro _ ⟨⟩
  exact .inl ⟨b, rfl, h⟩

theorem fails (h : bad) (x : Except ε α) (e : ε') : Follows bad V x (.error e : Except ε' β) :=
  fun _ _ => .inr ⟨h, e, rfl⟩

theorem bind {x : Except ε α} {y : Except ε' β} {f : α → Except ε γ} {g : β → Except ε' δ}
    (h : Follows bad V x y) (hfg : ∀ a b, V a b → Follows bad W (f a) (g b)) :
    Follows bad W (x >>= f) (y >>= g) := by
  intro c hc
  obtain ⟨a, ha, hfa⟩ := Scanner.bind_eq_ok.1 hc
  rcases h a ha with ⟨b, rfl, hab⟩ | ⟨hbad, e, rfl⟩
  · exact hfg a b hab c hfa
  · exact .inr ⟨hbad, e, rfl⟩

theorem false_iff {x : Except ε α} {y : Except ε' β} :
    Follows False V x y ↔ ∀ a, x = .ok a → ∃ b, y = .ok b ∧ V a b := by
  simp [Follows]

end Follows

def Reading.Similar {α β : Type} (R : Tokens → Tokens → Prop) (f : α → β) {m n : Nat}
    (r : Reading Located α m) (r' : Reading Located β n) : Prop :=
  r'.value = f r.value ∧ R r.rest r'.rest

def SkipsAlike (R : Tokens → Tokens → Prop) (m : Mark) : Prop :=
  ∀ {ts us}, R ts us →
    NextIsNot (· = .mark m) ts ∧ NextIsNot (· = .mark m) us ∨
      ∃ x y ts' us', ts = x :: ts' ∧ us = y :: us' ∧ x.token = .mark m ∧ y.token = .mark m ∧
        R ts' us'

namespace Tokens

variable {ε ε' α β : Type} {R : Tokens → Tokens → Prop} {f : α → β} {bad : Prop}

theorem skip?_similar {m : Mark} (hR : SkipsAlike R m) {k n : Nat} {r : Reading Located α k}
    {r' : Reading Located β n} (h : r.Similar R f r') :
    r.skip? (isMark m) = none ∧ r'.skip? (isMark m) = none ∨
      ∃ s s', r.skip? (isMark m) = some s ∧ r'.skip? (isMark m) = some s' ∧ s.Similar R f s' := by
  obtain ⟨value, ts, hlt⟩ := r
  obtain ⟨value', us, hlt'⟩ := r'
  obtain ⟨rfl, hrest⟩ := h
  rcases hR hrest with ⟨hts, hus⟩ | ⟨⟨_, x⟩, ⟨_, y⟩, ts', us', rfl, rfl, rfl, rfl, hnext⟩
  · exact .inl ⟨skip?_of_nextIsNot hts, skip?_of_nextIsNot hus⟩
  · exact .inr ⟨_, _, skip?_mark m .., skip?_mark m .., rfl, hnext⟩

theorem dropWhile_of_nextIsNot {m : Mark} {ts : Tokens} (h : NextIsNot (· = .mark m) ts) :
    ts.dropWhile (isMark m) = ts := by
  cases ts with
  | nil => rfl
  | cons x ts =>
    have hx : ¬ x.token = .mark m := h x rfl
    simp [isMark, hx]

theorem dropWhile_related {m : Mark} (hR : SkipsAlike R m) {ts us : Tokens} (h : R ts us) :
    R (ts.dropWhile (isMark m)) (us.dropWhile (isMark m)) := by
  induction ts generalizing us with
  | nil =>
    rcases hR h with ⟨hts, hus⟩ | ⟨_, _, _, _, hts, -⟩
    · rwa [dropWhile_of_nextIsNot hts, dropWhile_of_nextIsNot hus]
    · cases hts
  | cons x ts ih =>
    rcases hR h with ⟨hts, hus⟩ | ⟨x', y, ts', us', heq, rfl, hx, hy, hnext⟩
    · rwa [dropWhile_of_nextIsNot hts, dropWhile_of_nextIsNot hus]
    · obtain ⟨rfl, rfl⟩ := List.cons.inj heq
      simpa [isMark, hx, hy] using ih hnext

theorem follows_commaSeparated (hR : SkipsAlike R .comma) {item : TokenReader ε α}
    {item' : TokenReader ε' β}
    (hitem : ∀ {ts us}, R ts us → Follows bad (Reading.Similar R f) (item ts) (item' us))
    {ts us : Tokens} (h : R ts us) :
    Follows bad (Reading.Similar R (List.map f)) (commaSeparated item ts)
      (commaSeparated item' us) := by
  rw [commaSeparated.eq_def item, commaSeparated.eq_def item']
  refine (hitem h).bind fun a a' hsim => ?_
  rcases skip?_similar hR hsim with ⟨hskip, hskip'⟩ | ⟨s, s', hskip, hskip', hs⟩
  · simp only [hskip, hskip']
    exact .ok ⟨congrArg (fun b => [b]) hsim.1, hsim.2⟩
  · simp only [hskip, hskip']
    refine (follows_commaSeparated hR hitem hs.2).bind fun more more' hmore => .ok ⟨?_, hmore.2⟩
    have hfirst : a'.value = f a.value := hsim.1
    have hothers : more'.value = more.value.map f := hmore.1
    simp [Reading.andThen, Reading.followedBy, Reading.weaken, Reading.loosen, Reading.map, hfirst,
      hothers]
termination_by ts.length
decreasing_by exact Reading.shorter _

/-- The parts end where the first reader sees their end, and go on where it goes on: `atEnd'` must
not hold of what the first reader can take. -/
theorem follows_semicolonSeparated (hR : SkipsAlike R .semicolon) {part : TokenReader ε (List α)}
    {part' : TokenReader ε' (List β)}
    (hpart : ∀ {ts us}, R ts us → Follows bad (Reading.Similar R (List.map f)) (part ts) (part' us))
    {atEnd atEnd' : Tokens → Bool} (hend : ∀ {ts us}, R ts us → atEnd ts → atEnd' us)
    (hmore : ∀ {ts us r}, R ts us → atEnd ts = false → part ts = .ok r → atEnd' us = false)
    {ts us : Tokens} (h : R ts us) :
    Follows bad (Reading.Similar R (List.map f)) (semicolonSeparated part atEnd ts)
      (semicolonSeparated part' atEnd' us) := by
  rw [semicolonSeparated.eq_def part, semicolonSeparated.eq_def part']
  refine (hpart h).bind fun a a' hsim => ?_
  rcases skip?_similar hR hsim with ⟨hskip, hskip'⟩ | ⟨s, s', hskip, hskip', hs⟩
  · simp only [hskip, hskip', Option.map_none]
    exact .ok hsim
  · simp only [hskip, hskip', Option.map_some]
    have hrest : R (s.skipAll (isMark .semicolon)).rest (s'.skipAll (isMark .semicolon)).rest :=
      dropWhile_related hR hs.2
    by_cases hatEnd : atEnd (s.skipAll (isMark .semicolon)).rest
    · simp only [hatEnd, hend hrest hatEnd, if_true]
      exact .ok ⟨hs.1, hrest⟩
    · simp only [hatEnd, Bool.false_eq_true, if_false]
      intro r hr
      -- the first reader goes on, so the second one is not at its end
      have hgoes : atEnd' (s'.skipAll (isMark .semicolon)).rest = false := by
        obtain ⟨more, hparts, -⟩ := Scanner.bind_eq_ok.1 hr
        rw [semicolonSeparated] at hparts
        obtain ⟨b, hb, -⟩ := Scanner.bind_eq_ok.1 hparts
        exact hmore hrest (Bool.eq_false_iff.2 hatEnd) hb
      simp only [hgoes, Bool.false_eq_true, if_false]
      have hparts := follows_semicolonSeparated hR hpart hend hmore hrest
      refine (hparts.bind fun more more' hmore => Follows.ok ⟨?_, hmore.2⟩) r hr
      have hfirst : a'.value = a.value.map f := hsim.1
      have hothers : more'.value = more.value.map f := hmore.1
      simp [Reading.andThen, Reading.followedBy, Reading.weaken, Reading.loosen, Reading.map,
        hfirst, hothers]
termination_by ts.length
decreasing_by exact Reading.shorter _

end Tokens

/-- Lists related by `R` have the same tokens, up to a closing brace behind those of the first. -/
structure Lockstep (R : Tokens → Tokens → Prop) : Prop where
  next : ∀ {x ts us}, R (x :: ts) us → ∃ y us', us = y :: us' ∧ y.token = x.token ∧ R ts us'
  stop : ∀ {us}, R [] us → ∃ text us', us = ⟨.mark .closeBrace, text⟩ :: us'

theorem Lockstep.skipsAlike {R : Tokens → Tokens → Prop} (hR : Lockstep R) {m : Mark}
    (hm : m ≠ .closeBrace) : SkipsAlike R m := by
  intro ts us h
  cases ts with
  | nil =>
    obtain ⟨text, us', rfl⟩ := hR.stop h
    exact .inl ⟨by simp [NextIsNot], nextIsNot_cons (by simpa using hm.symm) us'⟩
  | cons x ts =>
    obtain ⟨y, us', rfl, hy, hnext⟩ := hR.next h
    by_cases hx : x.token = .mark m
    · exact .inr ⟨x, y, ts, us', rfl, rfl, hx, hy.trans hx, hnext⟩
    · exact .inl ⟨nextIsNot_cons hx ts, nextIsNot_cons (hy ▸ hx) us'⟩

def Simulates {ε ε' α β : Type} (R : Tokens → Tokens → Prop) (f : α → β) (read : TokenReader ε α)
    (read' : TokenReader ε' β) : Prop :=
  ∀ {ts us r}, R ts us → read ts = .ok r → ∃ r', read' us = .ok r' ∧ r.Similar R f r'

theorem Simulates.follows {ε ε' α β : Type} {R : Tokens → Tokens → Prop} {f : α → β}
    {read : TokenReader ε α} {read' : TokenReader ε' β} (h : Simulates R f read read')
    {ts us : Tokens} (hR : R ts us) :
    Follows False (Reading.Similar R f) (read ts) (read' us) :=
  Follows.false_iff.2 fun _ hread => h hR hread

namespace Tokens

variable {ε ε' α β : Type} {R : Tokens → Tokens → Prop} {f : α → β}

theorem took_similar (value : α) (y : Located) {ts us : Tokens} (h : R ts us) :
    ∃ r', (took (f value) y us : Taken ε β (y :: us)) = .ok r' ∧
      (Reading.stay value ts).Similar R f r' :=
  ⟨_, rfl, rfl, h⟩

theorem simulates_commaSeparated (hR : Lockstep R) {item : TokenReader ε α}
    {item' : TokenReader ε' β} (hitem : Simulates R f item item') :
    Simulates R (List.map f) (commaSeparated item) (commaSeparated item') := by
  intro ts us r h hread
  have hitems := follows_commaSeparated (hR.skipsAlike (by decide)) hitem.follows h
  exact Follows.false_iff.1 hitems r hread

theorem simulates_semicolonSeparated (hR : Lockstep R) {part : TokenReader ε (List α)}
    {part' : TokenReader ε' (List β)} (hpart : Simulates R (List.map f) part part')
    {atEnd atEnd' : Tokens → Bool} (hend : ∀ {ts us}, R ts us → atEnd ts → atEnd' us)
    (hmore : ∀ {ts us r}, R ts us → part ts = .ok r → atEnd' us = false) :
    Simulates R (List.map f) (semicolonSeparated part atEnd) (semicolonSeparated part' atEnd') := by
  intro ts us r h hread
  have hparts := follows_semicolonSeparated (hR.skipsAlike (by decide)) hpart.follows hend
    (fun hR _ => hmore hR) h
  exact Follows.false_iff.1 hparts r hread

theorem quoted_similar (hR : Lockstep R) {iri : TokenReader ε Iri} {iri' : TokenReader ε' Iri}
    (hiri : Simulates R id iri iri') (value : String) (x y : Located) {ts us : Tokens}
    {r : Reading Located Literal (x :: ts).length} (h : R ts us)
    (hread : quoted iri value x ts = .ok r) :
    ∃ r', quoted iri' value y us = .ok r' ∧ r.Similar R id r' := by
  cases ts with
  | nil =>
    obtain ⟨text, us', rfl⟩ := hR.stop h
    obtain rfl := Except.ok.inj hread
    exact ⟨_, rfl, rfl, h⟩
  | cons z ts =>
    obtain ⟨z', us', rfl, hz, hnext⟩ := hR.next h
    simp only [quoted, hz] at hread ⊢
    split at hread
    · obtain rfl := Except.ok.inj hread
      exact ⟨_, rfl, rfl, hnext⟩
    · obtain ⟨i, hi, heq⟩ := Scanner.bind_eq_ok.1 hread
      obtain rfl := Except.ok.inj heq
      obtain ⟨i', hi', hvalue, hrest⟩ := hiri hnext hi
      simp only [hi', bind, Except.bind]
      exact ⟨_, rfl, congrArg (Literal.typed value) hvalue, hrest⟩
    · obtain rfl := Except.ok.inj hread
      exact ⟨_, rfl, rfl, h⟩

end Tokens

end LinkedRaces
