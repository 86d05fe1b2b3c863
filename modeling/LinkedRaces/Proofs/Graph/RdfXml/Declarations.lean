import LinkedRaces.Graph.RdfXml
import LinkedRaces.Proofs.Dictionary
import LinkedRaces.Proofs.Rdf.Resolution
import Mathlib

/-!
Declared namespaces. Unless the table takes the prefix `rdf` for something else, no two namespaces
are declared with one prefix, fresh prefixes included, and a name that was made once stands for the
same IRI under all later declarations.
-/

namespace LinkedRaces

def Namespaces.KeepsRdf (t : Namespaces) : Prop :=
  ∀ ns, t.get? "rdf" = some ns → ns = Vocabulary.rdf

namespace RdfXml

open Declarations

variable {t : Namespaces} {d d' : Declarations} {iri : Iri} {name : String}

theorem freshLabel_injective : Function.Injective freshLabel := by
  intro j k h
  exact Nat.repr_inj.1 ((String.append_right_inj "ns").1 h)

theorem freshLabel_ne_rdf (k : Nat) : freshLabel k ≠ "rdf" := by
  intro h
  have := congrArg String.toList h
  simp [freshLabel] at this

theorem exists_fresh (t : Namespaces) (n : Nat) :
    ∃ k ∈ List.range' n (t.prefixes.size + 1), t.get? (freshLabel k) = none := by
  by_contra hno
  simp only [not_exists, not_and] at hno
  have hsub : (List.range' n (t.prefixes.size + 1)).map freshLabel ⊆
      t.prefixes.entries.map Prod.fst := by
    intro label hlabel
    obtain ⟨k, hk, rfl⟩ := List.mem_map.1 hlabel
    exact Dictionary.contains_iff_mem_keys.1 (Option.isSome_iff_ne_none.2 (hno k hk))
  have hnodup : ((List.range' n (t.prefixes.size + 1)).map freshLabel).Nodup :=
    List.Nodup.map freshLabel_injective (List.nodup_range' 1)
  have hlength := (hnodup.subperm hsub).length_le
  simp only [List.length_map, List.length_range', Dictionary.size] at hlength
  omega

theorem freshFrom_spec (t : Namespaces) (n : Nat) :
    n ≤ freshFrom t n ∧ t.get? (freshLabel (freshFrom t n)) = none ∧
      ∀ k, n ≤ k → k < freshFrom t n → (t.get? (freshLabel k)).isSome := by
  unfold freshFrom
  cases hfind : (List.range' n (t.prefixes.size + 1)).find? fun k =>
      (t.get? (freshLabel k)).isNone with
  | none =>
    obtain ⟨k, hk, hnone⟩ := exists_fresh t n
    exact absurd (List.find?_eq_none.1 hfind k hk) (by simp [hnone])
  | some k =>
    obtain ⟨hnone, hmem, hfirst⟩ := List.find?_range'_eq_some.1 hfind
    refine ⟨(List.mem_range'_1.1 hmem).1, by simpa using hnone, fun j hj hlt => ?_⟩
    have := hfirst j hj hlt
    simpa [Option.isSome_iff_ne_none] using this

/-- Each prefix is declared for one namespace: those of the table, `rdf` for its own, and fresh ones
with numbers below the next. -/
structure Sound (t : Namespaces) (d : Declarations) : Prop where
  nodup : (d.prefixes.entries.map Prod.snd).Nodup
  label : ∀ e ∈ d.prefixes.entries,
    e.2 = "rdf" ∨ (t.get? e.2).isSome ∨ ∃ k < d.next, e.2 = freshLabel k
  rdf : d.prefixes.get? Vocabulary.rdf = some "rdf"

theorem entries_declareIfNew {d : Dictionary String} {e : String × String}
    (h : (e.1.isEmpty || d.contains e.2) = false) :
    (declareIfNew d e).entries = d.entries ++ [(e.2, e.1)] := by
  have hkey : e.2 ∉ d.entries.map Prod.fst := by
    rw [← Dictionary.contains_iff_mem_keys]
    simp [(Bool.or_eq_false_iff.1 h).2]
  rw [declareIfNew, if_neg (by simp [h])]
  exact Dictionary.insertEntry_of_notMem hkey e.1

theorem entries_foldl_declareIfNew (es : List (String × String)) (d : Dictionary String) :
    ∃ added, (es.foldl declareIfNew d).entries = d.entries ++ added ∧
      ∀ e ∈ added, (e.2, e.1) ∈ es := by
  induction es generalizing d with
  | nil => exact ⟨[], (List.append_nil _).symm, nofun⟩
  | cons f es ih =>
    obtain ⟨added, hentries, hadded⟩ := ih (declareIfNew d f)
    by_cases hf : f.1.isEmpty || d.contains f.2
    · refine ⟨added, ?_, fun e he => List.mem_cons_of_mem f (hadded e he)⟩
      rw [List.foldl_cons, hentries, declareIfNew, if_pos hf]
    · refine ⟨(f.2, f.1) :: added, ?_, List.forall_mem_cons.2
        ⟨List.mem_cons_self, fun e he => List.mem_cons_of_mem f (hadded e he)⟩⟩
      rw [List.foldl_cons, hentries, entries_declareIfNew (Bool.eq_false_iff.2 hf),
        List.append_assoc, List.singleton_append]

/-- Declaring one prefix after the other. A prefix that is declared already can only come up again
with a namespace that is declared too. -/
theorem nodup_foldl_declareIfNew {es : List (String × String)} {d : Dictionary String}
    (hd : (d.entries.map Prod.snd).Nodup) (hes : (es.map Prod.fst).Nodup)
    (hagain : ∀ e ∈ es, e.1 ∈ d.entries.map Prod.snd → d.contains e.2) :
    ((es.foldl declareIfNew d).entries.map Prod.snd).Nodup := by
  induction es generalizing d with
  | nil => exact hd
  | cons e es ih =>
    obtain ⟨he, hes⟩ := List.nodup_cons.1 hes
    obtain ⟨hagain₁, hagain⟩ := List.forall_mem_cons.1 hagain
    by_cases hnew : e.1.isEmpty || d.contains e.2
    · rw [List.foldl_cons, declareIfNew, if_pos hnew]
      exact ih hd hes hagain
    · have hentries := entries_declareIfNew (Bool.eq_false_iff.2 hnew)
      rw [Bool.or_eq_true, not_or] at hnew
      have hlabels : (declareIfNew d e).entries.map Prod.snd =
          (d.entries.map Prod.snd).concat e.1 := by
        simp [hentries]
      refine ih ?_ hes fun f hf hlabel => ?_
      · rw [hlabels]
        exact hd.concat fun hmem => hnew.2 (hagain₁ hmem)
      · rw [hlabels, List.concat_eq_append, List.mem_append, List.mem_singleton] at hlabel
        rcases hlabel with hlabel | hlabel
        · rw [Dictionary.contains_iff_mem_keys, hentries, List.map_append]
          exact List.mem_append_left _ (Dictionary.contains_iff_mem_keys.1 (hagain f hf hlabel))
        · exact absurd (List.mem_map.2 ⟨f, hf, hlabel⟩) he

theorem Sound.ofNamespaces (ht : t.KeepsRdf) : Sound t (ofNamespaces t) where
  nodup := by
    refine nodup_foldl_declareIfNew (List.pairwise_singleton ..) t.prefixes.nodup fun e he hlabel => ?_
    have hkey : e.1 = "rdf" := List.mem_singleton.1 hlabel
    have hns := ht e.2 (hkey ▸ Dictionary.get?_of_mem he)
    rw [hns]
    rfl
  label e he := by
    obtain ⟨added, hentries, hadded⟩ :=
      entries_foldl_declareIfNew t.prefixes.entries (Dictionary.empty.insert Vocabulary.rdf "rdf")
    rw [Declarations.ofNamespaces, hentries, List.mem_append] at he
    rcases he with he | he
    · obtain rfl := List.mem_singleton.1 he
      exact .inl rfl
    · exact .inr (.inl (Option.isSome_iff_exists.2 ⟨e.1, Dictionary.get?_of_mem (hadded e he)⟩))
  rdf := by
    obtain ⟨added, hentries, -⟩ :=
      entries_foldl_declareIfNew t.prefixes.entries (Dictionary.empty.insert Vocabulary.rdf "rdf")
    refine Dictionary.get?_of_mem ?_
    rw [Declarations.ofNamespaces, hentries]
    exact List.mem_append_left _ List.mem_cons_self

def Extends (d d' : Declarations) : Prop :=
  ∀ ns label, d.prefixes.get? ns = some label → d'.prefixes.get? ns = some label

theorem Extends.refl (d : Declarations) : Extends d d := fun _ _ h => h

theorem Extends.trans {d₁ d₂ d₃ : Declarations} (h₁ : Extends d₁ d₂) (h₂ : Extends d₂ d₃) :
    Extends d₁ d₃ :=
  fun ns label h => h₂ ns label (h₁ ns label h)

def Names (d : Declarations) (name : String) (iri : Iri) : Prop :=
  ∃ ns label rest, d.prefixes.get? ns = some label ∧ name = label ++ ":" ++ rest ∧
    iri.text = ns ++ rest ∧ ':' ∉ rest.toList

theorem Names.mono (hd : Extends d d') (h : Names d name iri) : Names d' name iri := by
  obtain ⟨ns, label, rest, hget, hname⟩ := h
  exact ⟨ns, label, rest, hd ns label hget, hname⟩

theorem splitName_append {cs ns rest : List Char} (h : Iri.splitName cs = (ns, rest)) :
    ns ++ rest = cs := by
  unfold Iri.splitName at h
  split at h
  next parts hparts =>
    subst h
    exact (Text.eq_of_splitAfterLast? hparts).symm
  next =>
    cases hslash : Text.splitAfterLast? '/' cs with
    | none =>
      rw [hslash] at h
      cases h
      exact List.append_nil _
    | some parts =>
      rw [hslash] at h
      subst h
      exact (Text.eq_of_splitAfterLast? hslash).symm

theorem colon_notMem_of_isElementName {cs : List Char} (h : isElementName cs) : ':' ∉ cs := by
  have hcolon : Text.isAlphabetic ':' = false ∧ isNameChar ':' = false := by decide
  cases cs with
  | nil => exact List.not_mem_nil
  | cons c rest =>
    simp only [isElementName, Bool.and_eq_true, Bool.or_eq_true, beq_iff_eq,
      List.all_eq_true] at h
    rintro (_ | ⟨_, hmem⟩)
    · rw [hcolon.1] at h
      simp at h
    · have := h.2 _ hmem
      rw [hcolon.2] at this
      cases this

theorem extends_insert {ns : String} (hns : d.prefixes.get? ns = none) (label : String) (n : Nat) :
    Extends d ⟨d.prefixes.insert ns label, n⟩ := by
  intro ns' label' h
  have hne : ns' ≠ ns := by
    rintro rfl
    rw [hns] at h
    cases h
  rw [Dictionary.get?_insert, if_neg hne, h]

/-- A fresh prefix is none that was declared: the table does not have it, and fresh ones before it
have lower numbers. -/
theorem Sound.declareFresh (hd : Sound t d) {ns : String} (hns : d.prefixes.get? ns = none) :
    Sound t ⟨d.prefixes.insert ns (freshLabel (freshFrom t d.next)), freshFrom t d.next + 1⟩ := by
  obtain ⟨hnext, hnone, -⟩ := freshFrom_spec t d.next
  have hkey : ns ∉ d.prefixes.entries.map Prod.fst := by
    rw [← Dictionary.contains_iff_mem_keys]
    simp [Dictionary.contains, hns]
  have hentries : (d.prefixes.insert ns (freshLabel (freshFrom t d.next))).entries =
      d.prefixes.entries.concat (ns, freshLabel (freshFrom t d.next)) := by
    rw [List.concat_eq_append]
    exact Dictionary.insertEntry_of_notMem hkey _
  refine ⟨?_, ?_, extends_insert hns _ (freshFrom t d.next + 1) _ _ hd.rdf⟩
  · rw [hentries, List.map_concat]
    refine hd.nodup.concat fun hmem => ?_
    obtain ⟨e, he, hlabel⟩ := List.mem_map.1 hmem
    rcases hd.label e he with hrdf | hsome | ⟨k, hk, hfresh⟩
    · exact freshLabel_ne_rdf _ (hlabel.symm.trans hrdf)
    · rw [hlabel, hnone] at hsome
      cases hsome
    · have := freshLabel_injective (hlabel.symm.trans hfresh)
      omega
  · intro e he
    rw [hentries, List.concat_eq_append, List.mem_append, List.mem_singleton] at he
    rcases he with he | rfl
    · refine (hd.label e he).imp_right (Or.imp_right ?_)
      rintro ⟨k, hk, hfresh⟩
      exact ⟨k, by show k < _ + 1; omega, hfresh⟩
    · exact .inr (.inr ⟨_, Nat.lt_succ_self _, rfl⟩)

theorem elementName_spec (hd : Sound t d) (h : elementName t d iri = (some name, d')) :
    Sound t d' ∧ Extends d d' ∧ Names d' name iri := by
  obtain ⟨ns, rest, hsplit⟩ : ∃ ns rest, Iri.splitName iri.text.toList = (ns, rest) := ⟨_, _, rfl⟩
  have htext : iri.text = String.ofList ns ++ String.ofList rest := by
    rw [← String.ofList_append, splitName_append hsplit, String.ofList_toList]
  unfold elementName at h
  simp only [hsplit] at h
  split at h
  next => cases h
  next hname =>
    simp only [Bool.or_eq_true, Bool.not_eq_eq_eq_not, Bool.not_true, not_or,
      Bool.not_eq_false] at hname
    have hrest : ':' ∉ (String.ofList rest).toList := by
      rw [String.toList_ofList]
      exact colon_notMem_of_isElementName hname.1
    split at h
    next label hget =>
      cases h
      exact ⟨hd, .refl d, _, label, _, hget, rfl, htext, hrest⟩
    next hget =>
      cases h
      refine ⟨hd.declareFresh hget, extends_insert hget _ _, _, _, _, ?_, rfl, htext, hrest⟩
      rw [Dictionary.get?_insert, if_pos rfl]

def attributes (d : Declarations) : List (String × String) :=
  d.prefixes.entries.map fun (ns, label) => ("xmlns:" ++ label, ns)

/-- What an element name stands for under declarations: the namespace of its prefix, and the rest.
The rest has no colon, so the prefix ends at the last one. -/
def expandName? (declared : List (String × String)) (name : String) : Option Iri :=
  (Text.splitAfterLast? ':' name.toList).bind fun (label, rest) =>
    (Dictionary.lookupEntry ("xmlns:" ++ String.ofList label.dropLast) declared).map fun ns =>
      ⟨ns ++ String.ofList rest⟩

theorem Sound.nodup_attributes (hd : Sound t d) : ((attributes d).map Prod.fst).Nodup := by
  have hinjective : Function.Injective ("xmlns:" ++ ·) := by
    intro a b h
    simpa [String.append_right_inj] using h
  have hmap : (attributes d).map Prod.fst = (d.prefixes.entries.map Prod.snd).map ("xmlns:" ++ ·) := by
    simp [attributes, Function.comp_def]
  rw [hmap]
  exact List.Nodup.map hinjective hd.nodup

theorem Sound.expandName?_eq (hd : Sound t d) (h : Names d name iri) :
    expandName? (attributes d) name = some iri := by
  obtain ⟨ns, label, rest, hget, rfl, htext, hrest⟩ := h
  have hsplit : Text.splitAfterLast? ':' (label ++ ":" ++ rest).toList =
      some (label.toList ++ [':'], rest.toList) := by
    simpa using splitAfterLast?_append hrest label.toList
  have hlookup : Dictionary.lookupEntry ("xmlns:" ++ label) (attributes d) = some ns := by
    refine Dictionary.lookupEntry_of_mem hd.nodup_attributes ?_
    exact List.mem_map.2 ⟨(ns, label), Dictionary.mem_of_get? hget, rfl⟩
  rw [expandName?, hsplit]
  simp [hlookup, ← htext]

theorem Sound.eq_of_names_description (hd : Sound t d) (h : Names d "rdf:Description" iri) :
    iri = ⟨Vocabulary.rdf ++ "Description"⟩ := by
  have hrdf : Names d "rdf:Description" ⟨Vocabulary.rdf ++ "Description"⟩ :=
    ⟨Vocabulary.rdf, "rdf", "Description", hd.rdf, rfl, rfl, by decide⟩
  exact Option.some.inj ((hd.expandName?_eq h).symm.trans (hd.expandName?_eq hrdf))

end RdfXml

end LinkedRaces
