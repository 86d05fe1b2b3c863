import LinkedRaces.Text.Alphabetic
import LinkedRaces.Text.Basic

/-!
Classes of characters that are given by ranges of code points, and the blanks beside the other
classes: no blank is a letter or a number.
-/

namespace LinkedRaces.Text

theorem exists_range {table : List (Nat × Nat)} {n : Nat} (h : inRanges table n) :
    ∃ r ∈ table, r.1 ≤ n ∧ n ≤ r.2 := by
  induction table with
  | nil => simp [inRanges] at h
  | cons r rest ih =>
    by_cases hr : n < r.1
    · simp [inRanges, hr] at h
    · by_cases hl : n ≤ r.2
      · exact ⟨r, List.mem_cons_self, Nat.le_of_not_lt hr, hl⟩
      · obtain ⟨s, hs, hn⟩ := ih (by simpa [inRanges, hr, hl] using h)
        exact ⟨s, List.mem_cons_of_mem r hs, hn⟩

theorem forall_inRanges {table : List (Nat × Nat)} {P : Char → Prop}
    (h : ∀ r ∈ table, ∀ n ∈ List.range' r.1 (r.2 + 1 - r.1), P (Char.ofNat n)) {c : Char}
    (hc : inRanges table c.toNat) : P c := by
  obtain ⟨r, hr, hlo, hhi⟩ := exists_range hc
  have := h r hr c.toNat (List.mem_range'_1.2 ⟨hlo, by omega⟩)
  rwa [Char.ofNat_toNat] at this

def spans : List (Nat × Nat) → Nat → Nat → Bool
  | [], _, _ => false
  | (first, last) :: rest, lo, hi => Nat.ble first lo && (Nat.ble hi last || spans rest lo hi)

theorem inRanges_of_spans {table : List (Nat × Nat)} {lo hi n : Nat} (h : spans table lo hi)
    (hlo : lo ≤ n) (hhi : n ≤ hi) : inRanges table n := by
  induction table with
  | nil => simp [spans] at h
  | cons r rest ih =>
    simp only [spans, Bool.and_eq_true, Bool.or_eq_true, Nat.ble_eq] at h
    obtain ⟨hfirst, hlast⟩ := h
    rw [inRanges, if_neg (Nat.not_lt.2 (Nat.le_trans hfirst hlo)), Bool.or_eq_true,
      decide_eq_true_eq]
    exact hlast.imp (Nat.le_trans hhi) ih

theorem isAlphanumeric_of_isBlank {c : Char} (h : isBlank c) : isAlphanumeric c = false :=
  forall_inRanges (P := fun c => isAlphanumeric c = false) (by decide +kernel) h

end LinkedRaces.Text
