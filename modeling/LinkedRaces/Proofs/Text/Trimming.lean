import LinkedRaces.Text.Basic
import Mathlib.Data.List.Infix
import Mathlib.Data.List.TakeWhile

/-!
Trimmed text: when nothing is left of it, and that a text without blanks occurs in it exactly if it
occurs in all of it.
-/

namespace LinkedRaces.Text

def isBlankText (s : String) : Bool := s.toList.all isBlank

theorem all_dropWhile {α : Type} (p : α → Bool) (xs : List α) :
    (xs.dropWhile p).all p = xs.all p := by
  induction xs with
  | nil => rfl
  | cons x xs ih => cases hx : p x <;> simp [hx, ih]

theorem trim_eq_empty_iff {s : String} : trim s = "" ↔ isBlankText s := by
  have hend {cs : List Char} : trimEnd cs = [] ↔ cs.all isBlank := by
    rw [trimEnd, List.reverse_eq_nil_iff, List.dropWhile_eq_nil_iff, List.all_eq_true]
    simp only [List.mem_reverse]
  rw [isBlankText, ← all_dropWhile, ← trimStart, ← hend, ← String.toList_inj, trim,
    String.toList_ofList, trimChars]
  rfl

theorem occursIn_iff_isInfix {needle cs : List Char} : occursIn needle cs ↔ needle <:+: cs := by
  induction cs with
  | nil => simp [occursIn]
  | cons c cs ih => simp [occursIn, List.infix_cons_iff, ih]

theorem subset_of_occursIn {needle cs : List Char} (h : occursIn needle cs) : needle ⊆ cs :=
  (occursIn_iff_isInfix.1 h).subset

theorem isInfix_dropWhile_iff {p : Char → Bool} {needle : List Char} (hne : needle ≠ [])
    (hneedle : ∀ c ∈ needle, p c = false) {cs : List Char} :
    needle <:+: cs.dropWhile p ↔ needle <:+: cs := by
  induction cs with
  | nil => rfl
  | cons c cs ih =>
    cases hc : p c with
    | false => simp [hc]
    | true =>
      -- the needle does not begin at a character that is dropped
      have hstart : ¬ needle <+: c :: cs := by
        cases needle with
        | nil => exact absurd rfl hne
        | cons d ds =>
          rw [List.cons_prefix_cons]
          rintro ⟨rfl, -⟩
          simp [hc] at hneedle
      simp [hc, ih, List.infix_cons_iff, hstart]

theorem occursIn_trim {needle : List Char} (hne : needle ≠ [])
    (hneedle : needle.all (!isBlank ·)) (s : String) :
    occursIn needle (trim s).toList = occursIn needle s.toList := by
  have hblank : ∀ c ∈ needle, isBlank c = false := by simpa using hneedle
  rw [Bool.eq_iff_iff, occursIn_iff_isInfix, occursIn_iff_isInfix, trim, String.toList_ofList,
    trimChars, trimEnd, ← List.reverse_infix, List.reverse_reverse,
    isInfix_dropWhile_iff (by simpa using hne) (by simpa using hblank), List.reverse_infix,
    trimStart, isInfix_dropWhile_iff hne hblank]

end LinkedRaces.Text
