import LinkedRaces.Text.Basic
import Mathlib.Data.List.Basic

/-!
Texts with separators between them: what they are made of, when nothing is left of them, and how the
parts are found again.
-/

namespace LinkedRaces.Text

theorem forall_mem_intercalate {α : Type} {P : α → Prop} {sep : List α} {parts : List (List α)}
    (hsep : ∀ c ∈ sep, P c) (h : ∀ part ∈ parts, ∀ c ∈ part, P c) :
    ∀ c ∈ sep.intercalate parts, P c := by
  induction parts with
  | nil => simp
  | cons part parts ih =>
    obtain ⟨hpart, hparts⟩ := List.forall_mem_cons.1 h
    cases parts with
    | nil => simpa using hpart
    | cons next parts =>
      rw [List.intercalate_cons_cons]
      exact List.forall_mem_append.2 ⟨List.forall_mem_append.2 ⟨hpart, hsep⟩, ih hparts⟩

theorem mem_intercalate_of_mem {α : Type} {sep part : List α} {parts : List (List α)}
    (hpart : part ∈ parts) {c : α} (hc : c ∈ part) : c ∈ sep.intercalate parts := by
  induction parts with
  | nil => cases hpart
  | cons first parts ih =>
    cases parts with
    | nil =>
      obtain rfl := List.mem_singleton.1 hpart
      simpa using hc
    | cons next parts =>
      rw [List.intercalate_cons_cons, List.append_assoc, List.mem_append, List.mem_append]
      rcases List.mem_cons.1 hpart with rfl | hpart
      · exact .inl hc
      · exact .inr (.inr (ih hpart))

theorem intercalate_ends {α : Type} (ending : α) (parts : List (List α)) :
    [ending].intercalate (parts ++ [[]]) = parts.flatMap (· ++ [ending]) := by
  induction parts with
  | nil => rfl
  | cons part parts ih =>
    rw [List.cons_append, List.intercalate_cons_of_ne_nil (by simp), ih, List.flatMap_cons]

theorem join_eq_empty_iff {sep : String} (hsep : sep ≠ "") {parts : List String}
    (hne : parts ≠ []) : join sep parts = "" ↔ parts = [""] := by
  match parts, hne with
  | [part], _ => simp [join]
  | part :: other :: parts, _ =>
    rw [join, ← String.toList_eq_nil_iff, String.toList_intercalate]
    simp [List.intercalate_cons_cons, hsep]

theorem splitAll_eq_splitOnP (isSep : Char → Bool) (cs : List Char) :
    splitAll isSep cs = cs.splitOnP isSep := by
  fun_induction splitAll isSep cs with
  | case1 => rfl
  | case2 c cs hsep ih => rw [List.splitOnP_cons_eq_if_modifyHead, if_pos hsep, ih]
  | case3 c cs hsep hnil ih => exact absurd (ih.symm.trans hnil) (List.splitOnP_ne_nil isSep cs)
  | case4 c cs hsep part parts hparts ih =>
    rw [List.splitOnP_cons_eq_if_modifyHead, if_neg hsep, ← ih, hparts, List.modifyHead_cons]

theorem flatten_splitAll (isSep : Char → Bool) (cs : List Char) :
    (splitAll isSep cs).flatten = cs.filter (!isSep ·) := by
  fun_induction splitAll isSep cs with
  | case1 => rfl
  | case2 c cs hsep ih => simp [hsep, ih]
  | case3 c cs hsep hnil ih => simp_all
  | case4 c cs hsep part parts hparts ih => simp_all

theorem splitAll_intercalate {isSep : Char → Bool} {sep : Char} (hsep : isSep sep)
    {parts : List (List Char)} (hne : parts ≠ [])
    (h : ∀ part ∈ parts, ∀ c ∈ part, isSep c = false) :
    splitAll isSep ([sep].intercalate parts) = parts := by
  rw [splitAll_eq_splitOnP]
  induction parts with
  | nil => exact absurd rfl hne
  | cons part parts ih =>
    obtain ⟨hpart, hparts⟩ := List.forall_mem_cons.1 h
    cases parts with
    | nil => rw [List.intercalate_singleton, List.splitOnP_eq_singleton hpart]
    | cons next parts =>
      rw [List.intercalate_cons_cons, List.append_assoc, List.singleton_append,
        List.splitOnP_append_cons_of_forall_mem hpart sep hsep,
        ih (List.cons_ne_nil next parts) hparts]

end LinkedRaces.Text
