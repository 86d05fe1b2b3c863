import LinkedRaces.Proofs.Graph.Writable
import LinkedRaces.Proofs.Text.Joined
import LinkedRaces.Proofs.Text.Lowercase
import LinkedRaces.Race.Slug
import Mathlib.Data.List.Chain

/-!
Slugs can stand in IRIs, whatever the label: they have single hyphens between words of letters and
numbers in lower case, and lower case never leads to a character that an IRI cannot have.

A slug is its own slug, but for labels with a dotted capital I. That letter is kept as one, and only
then lowered to two characters, of which the second is a combining dot.
-/

namespace LinkedRaces

theorem flatten_labelWords (label : List Char) :
    (labelWords label).flatten = label.filter Text.isAlphanumeric := by
  simp [labelWords, List.flatten_filter_not_isEmpty, Text.flatten_splitAll]

theorem ne_nil_of_mem_labelWords {label word : List Char} (h : word ∈ labelWords label) :
    word ≠ [] := by
  simpa using (List.mem_filter.1 h).2

theorem labelWords_intercalate {words : List (List Char)} (hne : ∀ word ∈ words, word ≠ [])
    (h : ∀ word ∈ words, ∀ c ∈ word, Text.isAlphanumeric c) :
    labelWords (['-'].intercalate words) = words := by
  by_cases hnil : words = []
  · rw [hnil]
    rfl
  · rw [labelWords, Text.splitAll_intercalate (by decide) hnil (by simpa using h),
      List.filter_eq_self]
    simpa using hne

def slugWords (label : List Char) : List (List Char) :=
  (labelWords label).map (·.flatMap Text.lowercaseChar)

theorem slugChars_eq (label : List Char) : slugChars label = ['-'].intercalate (slugWords label) :=
  rfl

theorem ne_nil_of_mem_slugWords {label word : List Char} (h : word ∈ slugWords label) :
    word ≠ [] := by
  obtain ⟨word, hword, rfl⟩ := List.mem_map.1 h
  obtain ⟨c, word, rfl⟩ := List.exists_cons_of_ne_nil (ne_nil_of_mem_labelWords hword)
  simp [Text.lowercaseChar_ne_nil]

theorem flatten_slugWords (label : List Char) :
    (slugWords label).flatten = (label.filter Text.isAlphanumeric).flatMap Text.lowercaseChar := by
  rw [← flatten_labelWords, List.flatMap_def, List.map_flatten, List.flatten_flatten, List.map_map]
  rfl

theorem exists_mem_slugWords {label : List Char} {d : Char} :
    (∃ word ∈ slugWords label, d ∈ word) ↔
      ∃ c ∈ label, Text.isAlphanumeric c ∧ d ∈ Text.lowercaseChar c := by
  simp only [← List.mem_flatten, flatten_slugWords, List.mem_flatMap, List.mem_filter, and_assoc]

theorem mem_slugChars {label : List Char} {d : Char} (h : d ∈ slugChars label) :
    d = '-' ∨ ∃ c ∈ label, Text.isAlphanumeric c ∧ d ∈ Text.lowercaseChar c := by
  refine Text.forall_mem_intercalate
    (P := fun d => d = '-' ∨ ∃ c ∈ label, Text.isAlphanumeric c ∧ d ∈ Text.lowercaseChar c)
    (by simp) (fun word hword d hd => ?_) d h
  exact .inr (exists_mem_slugWords.1 ⟨word, hword, hd⟩)

theorem mem_slugChars_of_mem {label : List Char} {c d : Char} (hc : c ∈ label)
    (halpha : Text.isAlphanumeric c) (hd : d ∈ Text.lowercaseChar c) : d ∈ slugChars label := by
  obtain ⟨word, hword, hmem⟩ := exists_mem_slugWords.2 ⟨c, hc, halpha, hd⟩
  exact Text.mem_intercalate_of_mem hword hmem

theorem writable_slug (label : String) : Writable (slug label).toList := by
  intro d hd
  rw [slug, String.toList_ofList] at hd
  rcases mem_slugChars hd with rfl | ⟨c, -, hc, hd⟩
  · decide
  · rcases Text.mem_lowercaseChar hc hd with hd | ⟨-, rfl⟩
    · exact isUnwritable_of_isAlphanumeric hd
    · decide

structure Hyphenated (cs : List Char) : Prop where
  head : cs.head? ≠ some '-'
  last : cs.getLast? ≠ some '-'
  single : cs.IsChain fun c d => c ≠ '-' ∨ d ≠ '-'

namespace Hyphenated

theorem of_notMem {cs : List Char} (h : '-' ∉ cs) : Hyphenated cs where
  head hhead := h (List.mem_of_mem_head? hhead)
  last hlast := h (List.mem_of_getLast? hlast)
  single := List.Pairwise.isChain (List.pairwise_of_forall_mem_list fun _ hc _ _ =>
    .inl fun heq => h (heq ▸ hc))

theorem append {word rest : List Char} (hword : '-' ∉ word) (hne : word ≠ [])
    (hrest : rest ≠ []) (h : Hyphenated rest) : Hyphenated (word ++ '-' :: rest) where
  head := by
    rw [List.head?_append_of_ne_nil _ hne]
    exact (of_notMem hword).head
  last := by
    rw [List.getLast?_append_of_ne_nil _ (List.cons_ne_nil _ _), List.getLast?_cons_of_ne_nil hrest]
    exact h.last
  single := by
    refine (of_notMem hword).single.append (List.isChain_cons.2 ⟨fun d hd => ?_, h.single⟩)
      fun c hc d _ => ?_
    · exact .inr fun heq => h.head (heq ▸ hd)
    · exact .inl fun heq => hword (heq ▸ List.mem_of_getLast? hc)

theorem intercalate {words : List (List Char)} (hne : ∀ word ∈ words, word ≠ [])
    (h : ∀ word ∈ words, '-' ∉ word) : Hyphenated (['-'].intercalate words) := by
  induction words with
  | nil => exact of_notMem List.not_mem_nil
  | cons word words ih =>
    obtain ⟨hword, hwords⟩ := List.forall_mem_cons.1 h
    obtain ⟨hcons, htail⟩ := List.forall_mem_cons.1 hne
    cases words with
    | nil =>
      rw [List.intercalate_singleton]
      exact of_notMem hword
    | cons next words =>
      rw [List.intercalate_cons_cons, List.append_assoc, List.singleton_append]
      refine append hword hcons (fun hnil => ?_) (ih htail hwords)
      obtain ⟨c, hc⟩ := List.exists_mem_of_ne_nil next (htail next List.mem_cons_self)
      exact List.not_mem_nil (hnil ▸ Text.mem_intercalate_of_mem List.mem_cons_self hc)

end Hyphenated

theorem hyphen_notMem_slugWords {label word : List Char} (h : word ∈ slugWords label) :
    '-' ∉ word := by
  intro hmem
  obtain ⟨c, -, hc, hd⟩ := exists_mem_slugWords.1 ⟨word, h, hmem⟩
  rcases Text.mem_lowercaseChar hc hd with hd | ⟨-, hd⟩
  · exact absurd hd (by decide)
  · exact absurd hd (by decide)

/-- The combining dot is left by the dotted capital I, and by nothing else. -/
theorem dot_mem_slugChars_iff {label : List Char} : '\u0307' ∈ slugChars label ↔ 'İ' ∈ label := by
  constructor
  · intro hd
    rcases mem_slugChars hd with hd | ⟨c, hc, halpha, hd⟩
    · exact absurd hd (by decide)
    · rcases Text.mem_lowercaseChar halpha hd with hd | ⟨rfl, -⟩
      · exact absurd hd (by decide)
      · exact hc
  · exact fun hc => mem_slugChars_of_mem hc (by decide) (by decide)

theorem isAlphanumeric_of_mem_slugChars {label : List Char} {d : Char} (h : d ∈ slugChars label) :
    Text.isAlphanumeric d ∨ d = '-' ∨ d = '\u0307' := by
  rcases mem_slugChars h with hd | ⟨c, -, hc, hd⟩
  · exact .inr (.inl hd)
  · exact (Text.mem_lowercaseChar hc hd).imp_right fun ⟨_, hdot⟩ => .inr hdot

theorem plain_slugChars_iff {label : List Char} :
    (∀ c ∈ slugChars label, Text.isAlphanumeric c ∨ c = '-') ↔ 'İ' ∉ label := by
  constructor
  · intro h hmem
    exact absurd (h _ (dot_mem_slugChars_iff.2 hmem)) (by decide)
  · intro h c hc
    rcases isAlphanumeric_of_mem_slugChars hc with halpha | rfl | rfl
    · exact .inl halpha
    · exact .inr rfl
    · exact absurd (dot_mem_slugChars_iff.1 hc) h

theorem slugWords_slugChars {label : List Char} (h : 'İ' ∉ label) :
    slugWords (slugChars label) = slugWords label := by
  have halpha : ∀ word ∈ slugWords label, ∀ d ∈ word, Text.isAlphanumeric d := by
    intro word hword d hd
    obtain ⟨c, hc, halpha, hd⟩ := exists_mem_slugWords.1 ⟨word, hword, hd⟩
    exact (Text.mem_lowercaseChar halpha hd).resolve_right fun ⟨hdotted, _⟩ => h (hdotted ▸ hc)
  rw [slugWords, slugChars_eq, labelWords_intercalate (fun _ => ne_nil_of_mem_slugWords) halpha]
  refine (List.map_congr_left fun word hword => ?_).trans (List.map_id _)
  refine Text.flatMap_lowercaseChar_of_isLowered fun d hd => ?_
  obtain ⟨c, -, -, hd⟩ := exists_mem_slugWords.1 ⟨word, hword, hd⟩
  exact Text.isLowered_of_mem_lowercaseChar hd

theorem dotted_notMem_slugChars (label : List Char) : 'İ' ∉ slugChars label := by
  intro h
  rcases mem_slugChars h with h | ⟨c, -, -, h⟩
  · exact absurd h (by decide)
  · exact absurd (Text.isLowered_of_mem_lowercaseChar h) (by decide)

theorem slugChars_slugChars_iff {label : List Char} :
    slugChars (slugChars label) = slugChars label ↔ 'İ' ∉ label := by
  constructor
  · intro h hmem
    have hdot : '\u0307' ∈ slugChars label := dot_mem_slugChars_iff.2 hmem
    rw [← h] at hdot
    exact dotted_notMem_slugChars label (dot_mem_slugChars_iff.1 hdot)
  · intro h
    rw [slugChars_eq, slugWords_slugChars h, slugChars_eq]

theorem slug_slug_iff (label : String) : slug (slug label) = slug label ↔ 'İ' ∉ label.toList := by
  rw [slug, slug, String.ofList_inj, String.toList_ofList, slugChars_slugChars_iff]

/-- Every slug has its hyphens in the right places. It is made of letters, numbers and hyphens, and
is its own slug, exactly if the label has no dotted capital I. The slug of a slug always is. -/
theorem slug_canonical_iff (label : String) :
    Hyphenated (slug label).toList ∧
    (∀ c ∈ (slug label).toList, Text.isAlphanumeric c ∨ c = '-' ∨ c = '\u0307') ∧
    ((∀ c ∈ (slug label).toList, Text.isAlphanumeric c ∨ c = '-') ↔ 'İ' ∉ label.toList) ∧
    (slug (slug label) = slug label ↔ 'İ' ∉ label.toList) ∧
    slug (slug (slug label)) = slug (slug label) := by
  have hchars : (slug label).toList = slugChars label.toList := String.toList_ofList
  refine ⟨?_, ?_, ?_, slug_slug_iff label, (slug_slug_iff (slug label)).2 ?_⟩ <;> rw [hchars]
  · exact Hyphenated.intercalate (fun _ => ne_nil_of_mem_slugWords) fun _ => hyphen_notMem_slugWords
  · exact fun _ => isAlphanumeric_of_mem_slugChars
  · exact plain_slugChars_iff
  · exact dotted_notMem_slugChars label.toList

/-- Its slug ends in a combining dot, and is not its own slug. -/
theorem slug_dotted : slug "İ" = "i\u0307" ∧ Text.isAlphanumeric '\u0307' = false ∧
    slug (slug "İ") = "i" := by
  decide +kernel

end LinkedRaces
