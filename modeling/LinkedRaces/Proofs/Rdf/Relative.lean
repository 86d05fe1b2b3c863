import LinkedRaces.Proofs.Dictionary
import LinkedRaces.Rdf.Iri
import Mathlib.Data.List.TakeWhile

/-!
Relative references and the IRIs that they stand for. A reference below a base is what follows the
base in an IRI. It is read back by putting the directory of the base in front of it, except that a
reference that starts with `#` takes the place of the fragment of the base. So a base that has a
fragment cannot be left out in front of a second one.
-/

namespace LinkedRaces

theorem splitAfterLast?_eq_none {c : Char} {cs : List Char} (h : c ∉ cs) :
    Text.splitAfterLast? c cs = none := by
  induction cs with
  | nil => rfl
  | cons d cs ih =>
    obtain ⟨hd, hcs⟩ := not_or.1 (mt List.mem_cons.2 h)
    simp [Text.splitAfterLast?, ih hcs, Ne.symm hd]

theorem splitAfterLast?_append {c : Char} {after : List Char} (h : c ∉ after) (before : List Char) :
    Text.splitAfterLast? c (before ++ c :: after) = some (before ++ [c], after) := by
  induction before with
  | nil => simp [Text.splitAfterLast?, splitAfterLast?_eq_none h]
  | cons d before ih => simp [Text.splitAfterLast?, ih]

namespace Iri

variable {base iri reference rest : List Char}

/-- What is put in front of a reference without a scheme. -/
def front (base : List Char) : List Char → List Char
  | [] => base
  | '#' :: _ => base.takeWhile (· != '#')
  | '/' :: _ => (origin? base).getD (directory base)
  | _ => directory base

theorem resolveChars_of_hasScheme (h : hasScheme reference) (base : List Char) :
    resolveChars base reference = reference := by
  simp [resolveChars, h]

theorem resolveChars_eq_front (h : hasScheme reference = false) (base : List Char) :
    resolveChars base reference = front base reference ++ reference := by
  unfold resolveChars
  rw [h, if_neg Bool.false_ne_true]
  split
  · exact (List.append_nil base).symm
  · rfl
  · rfl
  next hempty hfragment hpath => rw [front.eq_4 base reference hempty hfragment hpath]

@[simp]
theorem toList_resolve (base : Iri) (text : String) :
    (base.resolve text).text.toList = resolveChars base.text.toList text.toList :=
  String.toList_ofList

theorem resolve_eq_iff {i base : Iri} {text : String} :
    base.resolve text = i ↔ resolveChars base.text.toList text.toList = i.text.toList := by
  rw [← toList_resolve, String.toList_inj, ← Iri.mk.injEq]

def Absolute (i : Iri) : Prop := hasScheme i.text.toList

theorem resolve_absolute {i : Iri} (h : i.Absolute) (base : Iri) : base.resolve i.text = i := by
  rw [resolve, resolveChars_of_hasScheme h, String.ofList_toList]

theorem directory_of_slash (h : base.getLast? = some '/') : directory base = base := by
  obtain ⟨cs, rfl⟩ := List.getLast?_eq_some_iff.1 h
  simp [directory, splitAfterLast?_append List.not_mem_nil]

theorem relativeChars?_eq_some_iff : relativeChars? base iri = some rest ↔
    base.getLast? = some '/' ∧ iri = base ++ rest ∧
      rest ≠ [] ∧ rest.head? ≠ some '/' ∧ hasScheme rest = false := by
  unfold relativeChars?
  split
  next hslash => simp [Option.filter_eq_some_iff, Text.dropBeginning?_eq_some_iff, hslash, and_assoc]
  next hslash => simp [hslash]

theorem eq_append_of_relativeChars? (h : relativeChars? base iri = some rest) :
    iri = base ++ rest := (relativeChars?_eq_some_iff.1 h).2.1

def kept (base rest : List Char) : List Char :=
  if rest.head? = some '#' then base.takeWhile (· != '#') else base

theorem front_of_relativeChars? (h : relativeChars? base iri = some rest) :
    front base rest = kept base rest := by
  obtain ⟨hslash, -, hne, hhead, -⟩ := relativeChars?_eq_some_iff.1 h
  unfold front
  split
  · exact absurd rfl hne
  · rfl
  · exact absurd rfl hhead
  next hfragment _ =>
    have hpath : rest.head? ≠ some '#' := by
      intro h
      obtain ⟨cs, hcs⟩ := List.head?_eq_some_iff.1 h
      exact hfragment cs hcs
    rw [kept, if_neg hpath, directory_of_slash hslash]

theorem resolveChars_of_relativeChars? (h : relativeChars? base iri = some rest) :
    resolveChars base rest = kept base rest ++ rest := by
  obtain ⟨-, -, -, -, hscheme⟩ := relativeChars?_eq_some_iff.1 h
  rw [resolveChars_eq_front hscheme, front_of_relativeChars? h]

theorem takeWhile_eq_self_iff_notMem :
    base.takeWhile (· != '#') = base ↔ '#' ∉ base := by
  rw [List.takeWhile_eq_self_iff]
  simp only [bne_iff_ne]
  exact ⟨fun h hmem => h _ hmem rfl, fun h c hc heq => h (heq ▸ hc)⟩

theorem kept_eq_self_iff : kept base rest = base ↔ ¬('#' ∈ base ∧ rest.head? = some '#') := by
  rw [kept]
  split
  next hhead => rw [takeWhile_eq_self_iff_notMem]; simp [hhead]
  next hhead => simp [hhead]

theorem resolveChars_relativeChars? (hbase : '#' ∉ base)
    (h : relativeChars? base iri = some rest) :
    iri = base ++ rest ∧ resolveChars base rest = iri := by
  have hiri := eq_append_of_relativeChars? h
  have hkept : kept base rest = base := kept_eq_self_iff.2 fun hfragment => hbase hfragment.1
  exact ⟨hiri, by rw [resolveChars_of_relativeChars? h, hkept, hiri]⟩

/-- A relative form is read back as the IRI that it was made of, unless the base has a fragment and
the form starts with another one. -/
theorem resolve_relativeTo?_eq_iff {i : Iri} {base form : String}
    (h : i.relativeTo? base = some form) :
    (⟨base⟩ : Iri).resolve form = i ↔ ¬('#' ∈ base.toList ∧ form.toList.head? = some '#') := by
  obtain ⟨rest, hrest, rfl⟩ := Option.map_eq_some_iff.1 h
  have hresolve := resolveChars_of_relativeChars? hrest
  have hiri : i.text.toList = base.toList ++ rest := eq_append_of_relativeChars? hrest
  calc (⟨base⟩ : Iri).resolve (String.ofList rest) = i
      ↔ resolveChars base.toList rest = i.text.toList := by
        cases i
        rw [resolve, Iri.mk.injEq, ← String.toList_inj, String.toList_ofList, String.toList_ofList]
    _ ↔ kept base.toList rest = base.toList := by
        rw [hresolve, hiri, List.append_left_inj]
    _ ↔ ¬('#' ∈ base.toList ∧ (String.ofList rest).toList.head? = some '#') := by
        rw [kept_eq_self_iff, String.toList_ofList]

theorem resolve_relativeTo?_events :
    (⟨"https://example.org/events/1#start"⟩ : Iri).relativeTo? "https://example.org/" =
        some "events/1#start" ∧
      (⟨"https://example.org/"⟩ : Iri).resolve "events/1#start" =
        ⟨"https://example.org/events/1#start"⟩ := by
  have h : (⟨"https://example.org/events/1#start"⟩ : Iri).relativeTo? "https://example.org/" =
      some "events/1#start" := by decide +kernel
  exact ⟨h, (resolve_relativeTo?_eq_iff h).2 (by decide +kernel)⟩

/-- The second fragment takes the place of the first. -/
theorem resolve_relativeTo?_fragments :
    (⟨"http://e/#a/#b"⟩ : Iri).relativeTo? "http://e/#a/" = some "#b" ∧
      (⟨"http://e/#a/"⟩ : Iri).resolve "#b" = ⟨"http://e/#b"⟩ := by
  decide +kernel

end Iri

end LinkedRaces
