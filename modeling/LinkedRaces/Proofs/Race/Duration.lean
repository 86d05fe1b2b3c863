import LinkedRaces.Number.Integer
import LinkedRaces.Proofs.Lexical.Scanning
import LinkedRaces.Race.Duration
import Mathlib.Data.List.Basic
import Mathlib.Data.List.Induction

/-!
Durations read back. Behind its two letters a duration has a number of hours, one of minutes and one
of seconds, each of which may be left out. No text can be taken apart in two ways, and the text of a
finish time is the only one that states the time without a part that is zero or too large.
-/

namespace LinkedRaces

namespace Number

structure IsDecimal (ds : List Char) (n : Nat) : Prop where
  read : readDigits? ds = some n
  plain : ds.head? = some '0' → ds = ['0']

theorem readDigits?_eq_some_iff {ds : List Char} {n : Nat} :
    readDigits? ds = some n ↔ ds ≠ [] ∧ (∀ d ∈ ds, d.isDigit) ∧ ofDigits ds = n := by
  simp [readDigits?, and_assoc]

theorem digitChar_digitValue {c : Char} (h : c.isDigit) :
    digitValue c < 10 ∧ (digitValue c).digitChar = c := by
  simp only [Char.isDigit, Bool.and_eq_true, decide_eq_true_eq, UInt32.le_iff_toNat_le] at h
  have hlow : 48 ≤ c.toNat := h.1
  have hhigh : c.toNat ≤ 57 := h.2
  have hvalue : digitValue c = c.toNat - 48 := rfl
  have hlt : digitValue c < 10 := by omega
  refine ⟨hlt, Char.toNat_inj.1 ?_⟩
  rw [Nat.toNat_digitChar_of_lt_ten hlt]
  omega

theorem ofDigits_concat (ds : List Char) (d : Char) :
    ofDigits (ds ++ [d]) = 10 * ofDigits ds + digitValue d := by
  simp [ofDigits]

theorem isDecimal_toDigits (n : Nat) : IsDecimal (Nat.toDigits 10 n) n := by
  constructor
  · refine readDigits?_eq_some_iff.2 ⟨Nat.toDigits_ne_nil, fun d hd => ?_, ?_⟩
    · exact Nat.isDigit_of_mem_toDigits (by decide) (by decide) hd
    · exact Nat.ofDigitChars_ten_toDigits
  · -- the first digit is that of the tenth part, down to a number of one digit
    induction n using Nat.strongRecOn with
    | ind n ih =>
      by_cases hn : n < 10
      · rw [Nat.toDigits_of_lt_base hn, List.head?_cons]
        exact fun hzero => congrArg (fun d => [d]) (Option.some.inj hzero)
      · have hten : 10 ≤ n := Nat.le_of_not_lt hn
        rw [Nat.toDigits_of_base_le (by decide) hten,
          List.head?_append_of_ne_nil _ Nat.toDigits_ne_nil]
        intro hzero
        have htenth : Nat.toDigits 10 (n / 10) = ['0'] := ih _ (by omega) hzero
        have hread := Nat.ofDigitChars_ten_toDigits (n := n / 10)
        rw [htenth] at hread
        have : n / 10 = 0 := hread.symm
        omega

theorem IsDecimal.eq_toDigits {ds : List Char} {n : Nat} (h : IsDecimal ds n) :
    ds = Nat.toDigits 10 n := by
  obtain ⟨hne, hdigits, rfl⟩ := readDigits?_eq_some_iff.1 h.read
  have hplain := h.plain
  clear h
  induction ds using List.reverseRecOn with
  | nil => exact absurd rfl hne
  | append_singleton ds d ih =>
    obtain ⟨hlt, hd⟩ := digitChar_digitValue (hdigits d (by simp))
    by_cases hds : ds = []
    · subst hds
      rw [List.nil_append, show ofDigits [d] = digitValue d by simp [ofDigits],
        Nat.toDigits_of_lt_base hlt, hd]
    · have hhead : ds.head? ≠ some '0' := by
        intro hzero
        have hsingle := hplain (by rwa [List.head?_append_of_ne_nil _ hds])
        have hlength := congrArg List.length hsingle
        exact hds (List.length_eq_zero_iff.1 (by simpa using hlength))
      have hfront := ih hds (fun c hc => hdigits c (List.mem_append_left _ hc))
        fun hzero => absurd hzero hhead
      have hpos : 0 < ofDigits ds := by
        refine Nat.pos_of_ne_zero fun hzero => hhead ?_
        rw [hfront, hzero]
        rfl
      have hlast : Nat.toDigits 10 (digitValue d) = [d] := by
        rw [Nat.toDigits_of_lt_base hlt, hd]
      rw [ofDigits_concat, ← Nat.toDigits_append_toDigits (by decide) hpos hlt, ← hfront, hlast]

end Number

namespace Duration

open Number (IsDecimal isDecimal_toDigits)

inductive Part (unit : Char) : List Char → Option Nat → Prop
  | omitted : Part unit [] none
  | given {ds : List Char} {n : Nat} (h : IsDecimal ds n) : Part unit (ds ++ [unit]) (some n)

@[ext]
structure Parts where
  hours : Option Nat
  minutes : Option Nat
  seconds : Option Nat

namespace Parts

def total (p : Parts) : Nat :=
  3600 * p.hours.getD 0 + 60 * p.minutes.getD 0 + p.seconds.getD 0

/-- Some part is given, and none that is zero but for the seconds on their own. Minutes and seconds
do not make up a larger unit. -/
structure Canonical (p : Parts) : Prop where
  given : p ≠ ⟨none, none, none⟩
  nonzero : some 0 ∈ [p.hours, p.minutes, p.seconds] → p = ⟨none, none, some 0⟩
  minutes : ∀ m ∈ p.minutes, m < 60
  seconds : ∀ s ∈ p.seconds, s < 60

def unlessZero (n : Nat) : Option Nat := if n = 0 then none else some n

def ofTime (n : Nat) : Parts :=
  if n = 0 then ⟨none, none, some 0⟩
  else ⟨unlessZero (n / 3600), unlessZero (n % 3600 / 60), unlessZero (n % 60)⟩

theorem getD_unlessZero (n : Nat) : (unlessZero n).getD 0 = n := by
  unfold unlessZero
  split
  next h => exact h.symm
  next => rfl

theorem unlessZero_ne_some_zero (n : Nat) : unlessZero n ≠ some 0 := by
  unfold unlessZero
  split <;> simp_all

theorem unlessZero_getD {k : Option Nat} (h : k ≠ some 0) : unlessZero (k.getD 0) = k := by
  cases k with
  | none => rfl
  | some n => exact if_neg fun hn => h (congrArg some hn)

theorem mem_unlessZero {n k : Nat} (h : k ∈ unlessZero n) : k = n := by
  have hvalue := getD_unlessZero n
  rw [Option.mem_def.1 h] at hvalue
  exact hvalue

theorem total_ofTime (n : Nat) : (ofTime n).total = n := by
  unfold ofTime
  split
  next h => exact h.symm
  next =>
    simp only [total, getD_unlessZero]
    omega

theorem canonical_ofTime (n : Nat) : (ofTime n).Canonical := by
  unfold ofTime
  split
  · exact ⟨by simp, fun _ => rfl, by simp, by simp⟩
  next h =>
    refine ⟨fun hnone => h ?_, fun hzero => ?_, fun m hm => ?_, fun s hs => ?_⟩
    · have htotal := congrArg total hnone
      simp only [total, getD_unlessZero, Option.getD_none] at htotal
      omega
    · simp [(unlessZero_ne_some_zero _).symm] at hzero
    · obtain rfl := mem_unlessZero hm
      omega
    · obtain rfl := mem_unlessZero hs
      omega

theorem getD_lt {k : Option Nat} (h : ∀ n ∈ k, n < 60) : k.getD 0 < 60 := by
  cases k with
  | none => decide
  | some n => exact h n rfl

theorem Canonical.eq_ofTime {p : Parts} (h : p.Canonical) : p = ofTime p.total := by
  have hminutes := getD_lt h.minutes
  have hseconds := getD_lt h.seconds
  by_cases hzero : some 0 ∈ [p.hours, p.minutes, p.seconds]
  · rw [h.nonzero hzero]
    rfl
  · simp only [List.mem_cons, List.not_mem_nil, or_false, not_or] at hzero
    obtain ⟨hours, minutes, seconds⟩ := p
    simp only at hminutes hseconds hzero
    have hh := unlessZero_getD (Ne.symm hzero.1)
    have hm := unlessZero_getD (Ne.symm hzero.2.1)
    have hs := unlessZero_getD (Ne.symm hzero.2.2)
    have htotal : Parts.total ⟨hours, minutes, seconds⟩ ≠ 0 := by
      intro hall
      simp only [total] at hall
      have hgiven := h.given
      rw [← hh, ← hm, ← hs, show hours.getD 0 = 0 by omega, show minutes.getD 0 = 0 by omega,
        show seconds.getD 0 = 0 by omega] at hgiven
      exact hgiven rfl
    rw [ofTime, if_neg htotal, total,
      show (3600 * hours.getD 0 + 60 * minutes.getD 0 + seconds.getD 0) / 3600 = hours.getD 0 by
        omega,
      show (3600 * hours.getD 0 + 60 * minutes.getD 0 + seconds.getD 0) % 3600 / 60 =
        minutes.getD 0 by omega,
      show (3600 * hours.getD 0 + 60 * minutes.getD 0 + seconds.getD 0) % 60 = seconds.getD 0 by
        omega, hh, hm, hs]

end Parts

def Reads (text : List Char) (p : Parts) : Prop :=
  ∃ hours minutes seconds, text = 'P' :: 'T' :: (hours ++ (minutes ++ seconds)) ∧
    Part 'H' hours p.hours ∧ Part 'M' minutes p.minutes ∧ Part 'S' seconds p.seconds

variable {unit : Char} {cs ds rest rest' : List Char} {k l : Option Nat}

def mark (cs : List Char) : Option Char := (cs.dropWhile Char.isDigit).head?

theorem mark_digits (h : ∀ d ∈ ds, d.isDigit) (rest : List Char) :
    mark (ds ++ rest) = mark rest := by
  rw [mark, List.dropWhile_append_of_pos h]
  rfl

theorem mark_unit (hunit : unit.isDigit = false) (rest : List Char) :
    mark (unit :: rest) = some unit := by
  simp [mark, hunit]

theorem Part.mark_eq (hunit : unit.isDigit = false) (h : Part unit cs k) (rest : List Char) :
    mark (cs ++ rest) = some unit ∨ mark (cs ++ rest) = mark rest := by
  cases h with
  | omitted => exact .inr rfl
  | given h =>
    have hdigits := (Number.readDigits?_eq_some_iff.1 h.read).2.1
    rw [List.append_assoc, mark_digits hdigits]
    exact .inl (mark_unit hunit rest)

/-- A part ends at its unit, which is not to be found first in what follows. -/
theorem Part.unique (hunit : unit.isDigit = false) (h : Part unit cs k) (h' : Part unit ds l)
    (hrest : mark rest ≠ some unit) (hrest' : mark rest' ≠ some unit)
    (heq : cs ++ rest = ds ++ rest') : k = l ∧ rest = rest' := by
  have hstop (r : List Char) : ∀ c ∈ (unit :: r).head?, c.isDigit = false := by
    rintro _ ⟨⟩
    exact hunit
  cases h with
  | omitted =>
    cases h' with
    | omitted => exact ⟨rfl, heq⟩
    | @given ds n h' =>
      have hdigits := (Number.readDigits?_eq_some_iff.1 h'.read).2.1
      rw [List.nil_append, List.append_assoc] at heq
      rw [heq, mark_digits hdigits] at hrest
      exact absurd (mark_unit hunit rest') hrest
  | @given cs n h =>
    have hdigits := (Number.readDigits?_eq_some_iff.1 h.read).2.1
    cases h' with
    | omitted =>
      rw [List.nil_append, List.append_assoc] at heq
      rw [← heq, mark_digits hdigits] at hrest'
      exact absurd (mark_unit hunit rest) hrest'
    | @given ds m h' =>
      have hdigits' := (Number.readDigits?_eq_some_iff.1 h'.read).2.1
      rw [List.append_assoc, List.append_assoc, List.singleton_append, List.singleton_append] at heq
      have hfront := congrArg (List.takeWhile Char.isDigit) heq
      rw [Scanner.takeWhile_append_stop hdigits (hstop rest),
        Scanner.takeWhile_append_stop hdigits' (hstop rest')] at hfront
      subst hfront
      have hnumber : some n = some m := h.read.symm.trans h'.read
      have hback := List.append_cancel_left heq
      simp only [List.cons.injEq, true_and] at hback
      exact ⟨hnumber, hback⟩

theorem Reads.unique {text : List Char} {p q : Parts} (hp : Reads text p) (hq : Reads text q) :
    p = q := by
  obtain ⟨h, m, s, rfl, hh, hm, hs⟩ := hp
  obtain ⟨h', m', s', heq, hh', hm', hs'⟩ := hq
  simp only [List.cons.injEq, true_and] at heq
  have hsecond {s : List Char} {k : Option Nat} (hs : Part 'S' s k) :
      mark s = some 'S' ∨ mark s = none := by
    have hmark := hs.mark_eq (by decide) []
    rwa [List.append_nil] at hmark
  have hminute {m s : List Char} {k l : Option Nat} (hm : Part 'M' m k) (hs : Part 'S' s l) :
      mark (m ++ s) ≠ some 'H' := by
    rcases hm.mark_eq (by decide) s with hmark | hmark
    · simp [hmark]
    · rcases hsecond hs with hs | hs <;> simp [hmark, hs]
  have hne {s : List Char} {k : Option Nat} (hs : Part 'S' s k) : mark s ≠ some 'M' := by
    rcases hsecond hs with hs | hs <;> simp [hs]
  obtain ⟨hhours, heq⟩ := hh.unique (by decide) hh' (hminute hm hs) (hminute hm' hs') heq
  obtain ⟨hminutes, heq⟩ := hm.unique (by decide) hm' (hne hs) (hne hs') heq
  have heq' : s ++ [] = s' ++ [] := by rwa [List.append_nil, List.append_nil]
  obtain ⟨hseconds, -⟩ := hs.unique (by decide) hs' (by simp [mark]) (by simp [mark]) heq'
  exact Parts.ext hhours hminutes hseconds

theorem part_durationPart (n : Nat) (unit : Char) :
    Part unit (durationPart n unit.toString).toList (Parts.unlessZero n) := by
  unfold durationPart Parts.unlessZero
  split
  · exact .omitted
  · have hpart : Part unit (Nat.toDigits 10 n ++ [unit]) (some n) := .given (isDecimal_toDigits n)
    simpa [Nat.toString_eq_ofList_toDigits] using hpart

theorem reads_formatDuration (n : Nat) : Reads (formatDuration n).toList (Parts.ofTime n) := by
  unfold formatDuration Parts.ofTime
  split
  · exact ⟨[], [], ['0', 'S'], rfl, .omitted, .omitted, .given (isDecimal_toDigits 0)⟩
  · refine ⟨_, _, _, ?_, part_durationPart _ 'H', part_durationPart _ 'M', part_durationPart _ 'S'⟩
    simp only [String.toList_append, List.append_assoc]
    rfl

theorem Part.eq_of_same (h : Part unit cs k) (h' : Part unit ds k) : cs = ds := by
  cases h with
  | omitted =>
    cases h' with
    | omitted => rfl
  | given h =>
    cases h' with
    | given h' => rw [h.eq_toDigits, h'.eq_toDigits]

theorem Reads.eq_of_same {text text' : List Char} {p : Parts} (h : Reads text p)
    (h' : Reads text' p) : text = text' := by
  obtain ⟨hours, minutes, seconds, rfl, hh, hm, hs⟩ := h
  obtain ⟨hours', minutes', seconds', rfl, hh', hm', hs'⟩ := h'
  rw [hh.eq_of_same hh', hm.eq_of_same hm', hs.eq_of_same hs']

/-- The text of a time has parts of which none is superfluous and whose total is the time, it is the
only text of that kind, and it is read in one way. So no other time has the same text. -/
theorem formatDuration_spec (n : Nat) :
    (∀ text : String, text = formatDuration n ↔
      ∃ p, Reads text.toList p ∧ p.Canonical ∧ p.total = n) ∧
    (∀ p q, Reads (formatDuration n).toList p → Reads (formatDuration n).toList q → p = q) ∧
    ∀ m, formatDuration m = formatDuration n → m = n := by
  refine ⟨fun text => ⟨?_, ?_⟩, fun p q hp hq => hp.unique hq, fun m hm => ?_⟩
  · rintro rfl
    exact ⟨.ofTime n, reads_formatDuration n, Parts.canonical_ofTime n, Parts.total_ofTime n⟩
  · rintro ⟨p, hreads, hcanonical, rfl⟩
    rw [hcanonical.eq_ofTime] at hreads
    exact String.toList_inj.1 (hreads.eq_of_same (reads_formatDuration p.total))
  · have hparts : Parts.ofTime m = Parts.ofTime n :=
      Reads.unique (hm ▸ reads_formatDuration m) (reads_formatDuration n)
    rw [← Parts.total_ofTime m, hparts, Parts.total_ofTime]

example : formatDuration 18446744073709551615 = "PT5124095576030431H15S" := by decide

end Duration

end LinkedRaces
