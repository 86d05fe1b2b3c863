import LinkedRaces.Lexical.Tokens
import LinkedRaces.Proofs.Text.IgnoringCase
import Mathlib.Data.List.Forall2

/-!
Tokens that are alike: the same, or the same word in other letters, small or capital. Excepted are
the words that are more than keywords: the two booleans, and the one that states a class.
-/

namespace LinkedRaces

/-- A word whose letters may be small or capital. -/
def IsFreeWord (word : String) : Prop :=
  ∀ fixed ∈ ["a", "true", "false"], Text.eqIgnoringCase word fixed = false

instance (word : String) : Decidable (IsFreeWord word) :=
  inferInstanceAs (Decidable (∀ fixed ∈ ["a", "true", "false"], _))

theorem Text.eqIgnoringCase_congr {a b : String} (h : Text.eqIgnoringCase a b) (c : String) :
    Text.eqIgnoringCase a c = Text.eqIgnoringCase b c := by
  have hab : a.toList.map Char.toLower = b.toList.map Char.toLower := Text.eqIgnoringCase_iff.1 h
  simp only [Text.eqIgnoringCase, hab]

theorem IsFreeWord.ne {word : String} (h : IsFreeWord word) {fixed : String}
    (hfixed : fixed ∈ ["a", "true", "false"]) : word ≠ fixed := by
  rintro rfl
  have := h word hfixed
  simp [Text.eqIgnoringCase] at this

theorem IsFreeWord.congr {a b : String} (hab : Text.eqIgnoringCase a b) (h : IsFreeWord a) :
    IsFreeWord b :=
  fun fixed hfixed => Text.eqIgnoringCase_congr hab fixed ▸ h fixed hfixed

namespace Token

inductive Alike : Token → Token → Prop
  | refl (x : Token) : Alike x x
  | word {a b : String} (letters : Text.eqIgnoringCase a b) (free : IsFreeWord a) :
    Alike (.word a) (.word b)

namespace Alike

variable {x y : Token}

theorem symm (h : x.Alike y) : y.Alike x := by
  cases h with
  | refl => exact .refl x
  | word letters free =>
    exact .word (Text.eqIgnoringCase_iff.2 (Text.eqIgnoringCase_iff.1 letters).symm)
      (free.congr letters)

theorem eq_of_not_word (h : x.Alike y) (hx : ∀ word, x ≠ .word word) : y = x := by
  cases h with
  | refl => rfl
  | word => exact absurd rfl (hx _)

theorem exists_word {a : String} (h : (Token.word a).Alike y) :
    ∃ b, y = .word b ∧ Text.eqIgnoringCase a b := by
  cases h with
  | refl => exact ⟨a, rfl, Text.eqIgnoringCase_iff.2 (.refl _)⟩
  | word letters => exact ⟨_, rfl, letters⟩

theorem isKeyword_eq (h : x.Alike y) (keyword : String) :
    x.isKeyword keyword = y.isKeyword keyword := by
  cases h with
  | refl => rfl
  | word letters => exact Text.eqIgnoringCase_congr letters keyword

theorem eq_mark_iff (h : x.Alike y) (m : Mark) : x = .mark m ↔ y = .mark m := by
  cases h <;> simp

theorem beq_mark (h : x.Alike y) (m : Mark) : (x == .mark m) = (y == .mark m) := by
  rw [Bool.eq_iff_iff, beq_iff_eq, beq_iff_eq, h.eq_mark_iff]

end Alike

end Token

def AllAlike (ts us : Tokens) : Prop := List.Forall₂ (fun x y => x.token.Alike y.token) ts us

def NextAlike : Tokens → Tokens → Prop
  | [], [] => True
  | x :: _, y :: _ => x.token.Alike y.token
  | _, _ => False

theorem allAlike_of_tokens {ts us : Tokens} (h : us.map Located.token = ts.map Located.token) :
    AllAlike ts us := by
  induction ts generalizing us with
  | nil => exact List.map_eq_nil_iff.1 h ▸ .nil
  | cons x ts ih =>
    obtain ⟨y, us, rfl, hy, hrest⟩ := List.map_eq_cons_iff.1 h
    exact .cons (hy ▸ .refl _) (ih hrest)

theorem AllAlike.refl (ts : Tokens) : AllAlike ts ts := allAlike_of_tokens rfl

theorem AllAlike.exists_append {ts ts' us : Tokens} (h : AllAlike (ts ++ ts') us) :
    ∃ vs vs', us = vs ++ vs' ∧ AllAlike ts vs ∧ AllAlike ts' vs' := by
  induction ts generalizing us with
  | nil => exact ⟨[], us, rfl, .nil, h⟩
  | cons x ts ih =>
    obtain ⟨y, us, hxy, hrest, rfl⟩ := List.forall₂_cons_left_iff.1 h
    obtain ⟨vs, vs', rfl, hvs, hvs'⟩ := ih hrest
    exact ⟨y :: vs, vs', rfl, .cons hxy hvs, hvs'⟩

namespace NextAlike

variable {x : Located} {ts us rest : Tokens}

theorem refl (ts : Tokens) : NextAlike ts ts := by
  cases ts with
  | nil => trivial
  | cons x ts => exact Token.Alike.refl x.token

theorem nil_eq (h : NextAlike [] us) : us = [] := by
  cases us with
  | nil => rfl
  | cons y us => cases h

theorem exists_cons (h : NextAlike (x :: ts) us) :
    ∃ y us', us = y :: us' ∧ x.token.Alike y.token := by
  cases us with
  | nil => cases h
  | cons y us => exact ⟨y, us, rfl, h⟩

theorem cons {y : Located} (h : x.token.Alike y.token) : NextAlike (x :: ts) (y :: us) := h

theorem of_allAlike (h : AllAlike ts us) : NextAlike ts us := by
  cases h with
  | nil => trivial
  | cons hxy _ => exact hxy

theorem append {ts' us' : Tokens} (h : AllAlike ts us) (h' : NextAlike ts' us') :
    NextAlike (ts ++ ts') (us ++ us') := by
  cases h with
  | nil => exact h'
  | cons hxy _ => exact hxy

end NextAlike

end LinkedRaces
