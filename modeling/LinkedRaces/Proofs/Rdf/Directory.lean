import LinkedRaces.Proofs.Rdf.Resolution
import Mathlib.Data.List.Infix

/-!
Directories: a base up to its last slash. No slash of the base is lost with what follows, so that
the number of slashes tells what resolution has put in front of a reference. Nothing is put there if
the reference has a scheme or the base has nothing to give.
-/

namespace LinkedRaces

theorem Text.exists_last_of_mem {c : Char} {cs : List Char} (h : c ∈ cs) :
    ∃ before after, cs = before ++ c :: after ∧ c ∉ after := by
  obtain ⟨after, before, hcs, hafter⟩ := List.eq_append_cons_of_mem (List.mem_reverse.2 h)
  refine ⟨before.reverse, after.reverse, ?_, by simpa using hafter⟩
  rw [← List.reverse_reverse cs, hcs]
  simp

namespace Namespaces

theorem notMem_of_isLocalName {cs : List Char} (h : isLocalName cs) {c : Char}
    (hc : Scanner.isLocalChar c = false) : c ∉ cs := by
  have hname := isName_of_isLocalName h
  simp only [Scanner.isName, Bool.and_eq_true, List.all_eq_true] at hname
  intro hmem
  rw [hname.1 c hmem] at hc
  cases hc

end Namespaces

namespace Iri

variable {base reference : List Char}

theorem directory_append {after : List Char} (h : '/' ∉ after) (before : List Char) :
    directory (before ++ '/' :: after) = before ++ ['/'] := by
  rw [directory, splitAfterLast?_append h]

theorem directory_append_of_mem {rest : List Char} (h : '/' ∈ rest) (before : List Char) :
    directory (before ++ rest) = before ++ directory rest := by
  obtain ⟨inner, after, rfl, hafter⟩ := Text.exists_last_of_mem h
  rw [← List.append_assoc, directory_append hafter, directory_append hafter, List.append_assoc]

theorem count_slash_directory (base : List Char) :
    (directory base).count '/' = base.count '/' := by
  by_cases h : '/' ∈ base
  · obtain ⟨before, after, rfl, hafter⟩ := Text.exists_last_of_mem h
    rw [directory_append hafter]
    simp [List.count_eq_zero_of_not_mem hafter]
  · rw [directory, splitAfterLast?_eq_none h]

theorem directory_eq_nil_iff : directory base = [] ↔ base = [] := by
  by_cases h : '/' ∈ base
  · obtain ⟨before, after, rfl, hafter⟩ := Text.exists_last_of_mem h
    simp [directory_append hafter]
  · rw [directory, splitAfterLast?_eq_none h]

theorem colon_mem_directory (h : "://".toList <:+: base) : ':' ∈ directory base := by
  have hslash : '/' ∈ base := h.subset (by decide)
  obtain ⟨before, after, rfl, hafter⟩ := Text.exists_last_of_mem hslash
  obtain ⟨scheme, rest, heq⟩ := h
  have hsplit : scheme ++ ':' :: ('/' :: '/' :: rest) = before ++ '/' :: after := by simpa using heq
  rw [directory_append hafter]
  -- the colon is before the last slash, since slashes come after it
  rcases List.append_eq_append_iff.1 hsplit with ⟨inner, rfl, hinner⟩ | ⟨inner, rfl, hinner⟩
  · cases inner with
    | nil => simp at hinner
    | cons c inner =>
      obtain ⟨rfl, -⟩ := List.cons.inj hinner
      simp
  · cases inner with
    | nil => simp at hinner
    | cons c inner =>
      obtain ⟨-, rfl⟩ := List.cons.inj hinner
      simp at hafter

theorem front_eq_nil_iff :
    front base reference = [] ↔ base = [] ∨ reference.head? = some '#' ∧ base.head? = some '#' := by
  unfold front
  split
  · simp
  · cases base with
    | nil => simp
    | cons c base => by_cases h : c = '#' <;> simp [h]
  · cases horigin : origin? base with
    | none => simp [directory_eq_nil_iff]
    | some origin =>
      obtain ⟨scheme, authority, rfl, hbegin⟩ := origin?_eq_some horigin
      have hbase : base ≠ [] := by
        rintro rfl
        simpa using List.prefix_nil.1 hbegin
      simp [hbase]
  next hfragment _ =>
    have hhead : reference.head? ≠ some '#' := by
      intro h
      obtain ⟨cs, hcs⟩ := List.head?_eq_some_iff.1 h
      exact hfragment cs hcs
    simp [directory_eq_nil_iff, hhead]

theorem two_le_count_slash (h : "://".toList <:+: base) : 2 ≤ base.count '/' :=
  h.sublist.count_le '/'

theorem exists_resolveChars_eq (hslash : base.getLast? = some '/')
    (hscheme : "://".toList <:+: base) (hreference : reference ≠ []) (hfragment : '#' ∉ reference) :
    ∃ before, resolveChars base reference = before ++ reference ∧ before.count '/' ≠ 1 := by
  have hbase := two_le_count_slash hscheme
  cases h : hasScheme reference with
  | true => exact ⟨[], resolveChars_of_hasScheme h base, by simp⟩
  | false =>
    refine ⟨front base reference, resolveChars_eq_front h base, ?_⟩
    unfold front
    split
    · exact absurd rfl hreference
    · simp at hfragment
    · cases horigin : origin? base with
      | none =>
        rw [Option.getD_none, directory_of_slash hslash]
        omega
      | some origin =>
        obtain ⟨scheme, authority, rfl, -⟩ := origin?_eq_some horigin
        have := two_le_count_slash ⟨scheme, authority, rfl⟩
        rw [Option.getD_some]
        omega
    · rw [directory_of_slash hslash]
      omega

/-- A reference is read as itself if it has a scheme, or if the base has nothing to put in front of
it. -/
theorem resolve_eq_self_iff {b : Iri} {text : String} :
    b.resolve text = ⟨text⟩ ↔ hasScheme text.toList ∨ b.text = "" ∨
      text.toList.head? = some '#' ∧ b.text.toList.head? = some '#' := by
  rw [resolve_eq_iff]
  cases h : hasScheme text.toList with
  | true => simp [resolveChars_of_hasScheme h]
  | false => simp [resolveChars_eq_front h, front_eq_nil_iff]

theorem hasScheme_colon_iff {name rest : List Char} (h : ':' ∉ name) :
    hasScheme (name ++ ':' :: rest) ↔ IsScheme (name ++ [':']) := by
  unfold hasScheme
  rw [Text.splitAt?_append h]
  cases name with
  | nil => simp [IsScheme]
  | cons c name => simp [IsScheme]

theorem hasScheme_of_append {ns name : List Char} (h : hasScheme (ns ++ name))
    (hname : ':' ∉ name) : hasScheme ns := by
  obtain ⟨p, hp, hbegin⟩ := hasScheme_iff.1 h
  refine hasScheme_iff.2 ⟨p, hp, ?_⟩
  obtain ⟨c, scheme, rfl, -⟩ := hp
  rcases List.prefix_or_prefix_of_prefix hbegin (List.prefix_append ns name) with hle | hle
  · exact hle
  · rcases List.prefix_concat_iff.1 hle with heq | ⟨rest, hrest⟩
    · rw [← heq]
    · -- otherwise the colon would be in the name
      rw [← hrest, List.append_assoc, List.prefix_append_right_inj] at hbegin
      exact absurd (hbegin.subset (by simp)) hname

end Iri

end LinkedRaces
