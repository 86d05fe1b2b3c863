import LinkedRaces.Proofs.Text.Blank
import LinkedRaces.Text.Lowercase
import Mathlib.Data.List.Basic

/-!
Lower case stays as it is: text that was lowered once is not changed again. No image under one of the
shifts is moved by another, and none is a capital sigma, whose lower case depends on its place.

Letters and numbers stay letters and numbers, but for one: the lower case of the dotted capital I
has a combining dot, which is neither.
-/

namespace LinkedRaces.Text

theorem forall_ascii {P : Char → Prop} (h : ∀ n < 128, P (Char.ofNat n)) {c : Char}
    (hc : c.toNat < 128) : P c := by
  have := h c.toNat hc
  rwa [Char.ofNat_toNat] at this

namespace Shift

theorem covers_iff {s : Shift} {n : Nat} :
    s.covers n ↔ s.first ≤ n ∧ n ≤ s.last ∧ (n - s.first) % s.step = 0 := by
  simp [covers, and_assoc]

/-- No image under `s` is covered by `r`: they are apart, or every other code point of a stretch
belongs to one and those between them to the other. -/
def avoids (s r : Shift) : Bool :=
  Nat.blt r.last s.target || Nat.blt (s.target + (s.last - s.first)) r.first ||
    (s.step == 2 || s.first == s.last) && r.step == 2 && (s.target + r.first) % 2 == 1

theorem covers_apply_of_avoids {s r : Shift} (h : s.avoids r) {n : Nat} (hn : s.covers n) :
    r.covers (s.apply n) = false := by
  simp only [avoids, Bool.or_eq_true, Bool.and_eq_true, Nat.blt_eq, beq_iff_eq] at h
  obtain ⟨hfirst, hlast, hstep⟩ := covers_iff.1 hn
  refine Bool.eq_false_iff.2 fun hr => ?_
  obtain ⟨hrfirst, hrlast, hrstep⟩ := covers_iff.1 hr
  unfold apply at hrfirst hrlast hrstep
  rcases h with (h | h) | ⟨⟨hs, hr2⟩, hodd⟩
  · omega
  · omega
  · rw [hr2] at hrstep
    rcases hs with hs | hs
    · rw [hs] at hstep
      omega
    · omega

end Shift

theorem shift_eq_self {table : List Shift} {n : Nat} (h : ∀ s ∈ table, s.covers n = false) :
    shift table n = n := by
  have hfind : table.find? (·.covers n) = none := List.find?_eq_none.2 fun s hs => by simp [h s hs]
  simp only [shift, hfind]

theorem shift_cases (table : List Shift) (n : Nat) :
    (∃ s ∈ table, s.covers n ∧ shift table n = s.apply n) ∨
      (∀ s ∈ table, s.covers n = false) ∧ shift table n = n := by
  cases hfind : table.find? (·.covers n) with
  | some s =>
    exact .inl ⟨s, List.mem_of_find?_eq_some hfind, by simpa using List.find?_some hfind,
      by simp only [shift, hfind]⟩
  | none =>
    have hno : ∀ s ∈ table, s.covers n = false :=
      fun s hs => by simpa using List.find?_eq_none.1 hfind s hs
    exact .inr ⟨hno, shift_eq_self hno⟩

theorem shift_induction {table : List Shift} {P : Nat → Prop}
    (h : ∀ s ∈ table, ∀ k ≤ s.last - s.first, P (s.target + k)) {n : Nat} (hn : P n) :
    P (shift table n) := by
  rcases shift_cases table n with ⟨s, hs, hcovers, heq⟩ | ⟨-, heq⟩
  · obtain ⟨-, hlast, -⟩ := Shift.covers_iff.1 hcovers
    rw [heq, Shift.apply, Nat.add_comm]
    exact h s hs _ (by omega)
  · rwa [heq]

/-- The dotted capital I as a shift of its own, so that one check covers all that is lowered. -/
def dottedI : Shift := ⟨304, 304, 2, 105⟩

def Settled (n : Nat) : Prop := ∀ s ∈ dottedI :: lowercaseShifts, s.covers n = false

theorem settled_apply {s : Shift} (hs : s ∈ lowercaseShifts) {n : Nat} (hn : s.covers n) :
    Settled (s.apply n) := by
  have htable : (lowercaseShifts.all fun s => (dottedI :: lowercaseShifts).all s.avoids) = true := by
    decide +kernel
  exact fun r hr => Shift.covers_apply_of_avoids
    (List.all_eq_true.1 (List.all_eq_true.1 htable s hs) r hr) hn

theorem settled_shift {n : Nat} (hn : n ≠ 304) : Settled (shift lowercaseShifts n) := by
  rcases shift_cases lowercaseShifts n with ⟨s, hs, hcovers, heq⟩ | ⟨hno, heq⟩
  · exact heq ▸ settled_apply hs hcovers
  · rw [heq]
    refine List.forall_mem_cons.2 ⟨Bool.eq_false_iff.2 fun h => ?_, hno⟩
    have := Shift.covers_iff.1 h
    simp only [dottedI] at this
    omega

theorem valid_shift {n : Nat} (hvalid : n.isValidChar) (hn : 91 ≤ n) :
    (shift lowercaseShifts n).isValidChar ∧ 91 ≤ shift lowercaseShifts n := by
  have htable : ∀ s ∈ lowercaseShifts, 91 ≤ s.target ∧
      (s.target + (s.last - s.first) < 0xd800 ∨
        0xdfff < s.target ∧ s.target + (s.last - s.first) < 0x110000) := by
    decide +kernel
  refine shift_induction (P := fun m => m.isValidChar ∧ 91 ≤ m) (fun s hs k hk => ?_) ⟨hvalid, hn⟩
  have := htable s hs
  unfold Nat.isValidChar
  omega

theorem toNat_ofNat_shift {c : Char} (hc : 91 ≤ c.toNat) :
    (Char.ofNat (shift lowercaseShifts c.toNat)).toNat = shift lowercaseShifts c.toNat := by
  have hvalid := (valid_shift (n := c.toNat) c.valid hc).1
  rw [Char.ofNat, dif_pos hvalid]
  rfl

def IsLowered (c : Char) : Prop := c ≠ 'Σ' ∧ lowercaseChar c = [c]

instance (c : Char) : Decidable (IsLowered c) := inferInstanceAs (Decidable (_ ∧ _))

theorem isLowered_of_settled {c : Char} (h : Settled c.toNat) (hc : 91 ≤ c.toNat) :
    IsLowered c := by
  have hne (d : Char) (hd : (dottedI :: lowercaseShifts).any (·.covers d.toNat)) : c ≠ d := by
    rintro rfl
    obtain ⟨s, hs, hcovers⟩ := List.any_eq_true.1 hd
    simp [h s hs] at hcovers
  refine ⟨hne 'Σ' (by decide), ?_⟩
  by_cases hascii : c.toNat < 128
  · have hlower : c.toLower = c :=
      forall_ascii (P := fun c => 91 ≤ c.toNat → c.toLower = c) (by decide) hascii hc
    rw [lowercaseChar, if_pos hascii, hlower]
  · rw [lowercaseChar, if_neg hascii, if_neg (hne 'İ' (by decide)),
      shift_eq_self fun s hs => h s (List.mem_cons_of_mem _ hs), Char.ofNat_toNat]

theorem isLowered_of_mem_lowercaseChar {c d : Char} (h : d ∈ lowercaseChar c) : IsLowered d := by
  unfold lowercaseChar at h
  split at h
  next hc =>
    obtain rfl := List.mem_singleton.1 h
    exact forall_ascii (P := fun c => IsLowered c.toLower) (by decide) hc
  next hc =>
    split at h
    next =>
      simp only [List.mem_cons, List.not_mem_nil, or_false] at h
      rcases h with rfl | rfl <;> decide
    next hdotted =>
      obtain rfl := List.mem_singleton.1 h
      have hlow : 91 ≤ c.toNat := by omega
      have h304 : c.toNat ≠ 304 := by
        intro h
        exact hdotted (by rw [← Char.ofNat_toNat c, h])
      apply isLowered_of_settled <;> rw [toNat_ofNat_shift hlow]
      · exact settled_shift h304
      · exact (valid_shift c.valid hlow).2

theorem lowercaseChar_ne_nil (c : Char) : lowercaseChar c ≠ [] := by
  unfold lowercaseChar
  split
  · exact List.cons_ne_nil _ _
  · split <;> exact List.cons_ne_nil _ _

theorem flatMap_lowercaseChar_of_isLowered {cs : List Char} (h : ∀ c ∈ cs, IsLowered c) :
    cs.flatMap lowercaseChar = cs := by
  have hself : ∀ c ∈ cs, lowercaseChar c = [c] := fun c hc => (h c hc).2
  rw [List.flatMap_congr hself, List.flatMap_singleton']

theorem isAlphanumeric_shift {c : Char} (h : isAlphanumeric c) (hc : 91 ≤ c.toNat) :
    isAlphanumeric (Char.ofNat (shift lowercaseShifts c.toNat)) := by
  have htable : (lowercaseShifts.all fun s =>
      spans alphabeticRanges s.target (s.target + (s.last - s.first))) = true := by
    decide +kernel
  have hshift : inRanges alphabeticRanges (shift lowercaseShifts c.toNat) ||
      inRanges numericRanges (shift lowercaseShifts c.toNat) := by
    refine shift_induction (P := fun n => inRanges alphabeticRanges n || inRanges numericRanges n)
      (fun s hs k hk => ?_) h
    have := inRanges_of_spans (List.all_eq_true.1 htable s hs) (Nat.le_add_right s.target k) (by omega)
    simp [this]
  rwa [isAlphanumeric, isAlphabetic, isNumeric, toNat_ofNat_shift hc]

theorem mem_lowercaseChar {c d : Char} (h : isAlphanumeric c) (hd : d ∈ lowercaseChar c) :
    isAlphanumeric d ∨ c = 'İ' ∧ d = '\u0307' := by
  unfold lowercaseChar at hd
  split at hd
  next hascii =>
    obtain rfl := List.mem_singleton.1 hd
    exact .inl (forall_ascii (P := fun c => isAlphanumeric c → isAlphanumeric c.toLower)
      (by decide) hascii h)
  next hascii =>
    split at hd
    next hdotted =>
      simp only [List.mem_cons, List.not_mem_nil, or_false] at hd
      rcases hd with rfl | rfl
      · exact .inl (by decide)
      · exact .inr ⟨hdotted, rfl⟩
    next =>
      obtain rfl := List.mem_singleton.1 hd
      exact .inl (isAlphanumeric_shift h (by omega))

theorem isLowered_of_mem_lowercaseAfter {before cs : List Char} {d : Char}
    (h : d ∈ lowercaseAfter before cs) : IsLowered d := by
  induction cs generalizing before with
  | nil => simp [lowercaseAfter] at h
  | cons c cs ih =>
    rw [lowercaseAfter, List.mem_append] at h
    rcases h with h | h
    · split at h
      next =>
        obtain rfl := List.mem_singleton.1 h
        split <;> decide
      next => exact isLowered_of_mem_lowercaseChar h
    · exact ih h

theorem lowercaseAfter_of_isLowered {cs : List Char} (before : List Char)
    (h : ∀ c ∈ cs, IsLowered c) : lowercaseAfter before cs = cs := by
  induction cs generalizing before with
  | nil => rfl
  | cons c cs ih =>
    obtain ⟨⟨hsigma, hlower⟩, hrest⟩ := List.forall_mem_cons.1 h
    rw [lowercaseAfter, if_neg hsigma, hlower, ih (c :: before) hrest]
    rfl

theorem lowercase_lowercase (s : String) : lowercase (lowercase s) = lowercase s := by
  have hlowered : ∀ c ∈ (lowercase s).toList, IsLowered c := by
    intro c hc
    rw [lowercase, String.toList_ofList] at hc
    exact isLowered_of_mem_lowercaseAfter hc
  show String.ofList (lowercaseAfter [] (lowercase s).toList) = lowercase s
  rw [lowercaseAfter_of_isLowered [] hlowered, String.ofList_toList]

end LinkedRaces.Text
