import LinkedRaces.Proofs.Dictionary
import LinkedRaces.Proofs.Graph.Turtle.Reader
import LinkedRaces.Proofs.Graph.Writable
import LinkedRaces.Proofs.Lexical.Naming
import LinkedRaces.Proofs.Rdf.Namespaces

/-!
What the names in a text lead to. Resolution keeps the scheme of the base and adds nothing to the
characters of base and reference, so that a table whose namespaces can be written only gives IRIs
that can be written.
-/

namespace LinkedRaces

theorem Text.eq_of_splitAt? {sep cs before after : List Char}
    (h : splitAt? sep cs = some (before, after)) : cs = before ++ sep ++ after := by
  induction cs generalizing before with
  | nil =>
    obtain ⟨rfl, heq⟩ := Option.ite_none_right_eq_some.1 h
    cases heq
    rfl
  | cons c cs ih =>
    rw [splitAt?] at h
    split at h
    next rest hdrop =>
      cases h
      exact dropBeginning?_eq_some_iff.1 hdrop
    next =>
      obtain ⟨⟨_, _⟩, hsplit, heq⟩ := Option.map_eq_some_iff.1 h
      cases heq
      rw [ih hsplit]
      rfl

theorem Text.splitAt?_append_of_notMem {c : Char} {sep before : List Char} (h : c ∉ before)
    (after : List Char) :
    splitAt? (c :: sep) (before ++ c :: (sep ++ after)) = some (before, after) := by
  induction before with
  | nil =>
    have hsep : dropBeginning? sep (sep ++ after) = some after := dropBeginning?_eq_some_iff.2 rfl
    simp [splitAt?, dropBeginning?, hsep]
  | cons d before ih =>
    obtain ⟨hd, hbefore⟩ := not_or.1 (mt List.mem_cons.2 h)
    simp [splitAt?, dropBeginning?, hd, ih hbefore]

theorem Text.splitAt?_append {c : Char} {before : List Char} (h : c ∉ before) (after : List Char) :
    splitAt? [c] (before ++ c :: after) = some (before, after) :=
  splitAt?_append_of_notMem h after

theorem Text.splitAfterLast?_append_of_notMem {c : Char} {before : List Char} (h : c ∉ before)
    (cs : List Char) :
    splitAfterLast? c (before ++ cs) =
      (splitAfterLast? c cs).map fun (dir, rest) => (before ++ dir, rest) := by
  induction before with
  | nil => simp
  | cons d before ih =>
    obtain ⟨hd, hbefore⟩ := not_or.1 (mt List.mem_cons.2 h)
    cases hcs : splitAfterLast? c cs <;> simp [splitAfterLast?, ih hbefore, hcs, Ne.symm hd]

theorem Text.eq_of_splitAfterLast? {c : Char} {cs before after : List Char}
    (h : splitAfterLast? c cs = some (before, after)) : cs = before ++ after := by
  induction cs generalizing before with
  | nil => cases h
  | cons d cs ih => grind [splitAfterLast?]

theorem Text.takeWhile_append_of_notMem {c : Char} {cs : List Char} (h : c ∉ cs)
    (rest : List Char) : (cs ++ rest).takeWhile (· != c) = cs ++ rest.takeWhile (· != c) := by
  refine List.takeWhile_append_of_pos fun d hd => ?_
  rw [bne_iff_ne]
  rintro rfl
  exact h hd

namespace Iri

variable {base reference : List Char}

def IsScheme (p : List Char) : Prop :=
  ∃ c scheme, p = c :: scheme ++ [':'] ∧ c.isAlpha ∧ scheme.all isSchemeChar

theorem notMem_of_not_isSchemeChar {d : Char} (hd : isSchemeChar d = false) {c : Char}
    {scheme : List Char} (hc : c.isAlpha) (hscheme : scheme.all isSchemeChar) :
    d ∉ c :: scheme := by
  rintro (_ | ⟨_, h⟩)
  · simp [isSchemeChar, Char.isAlphanum, hc] at hd
  · have := List.all_eq_true.1 hscheme d h
    rw [hd] at this
    cases this

theorem IsScheme.notMem {p : List Char} (h : IsScheme p) {d : Char} (hd : isSchemeChar d = false)
    (hcolon : d ≠ ':') : d ∉ p := by
  obtain ⟨c, scheme, rfl, hc, hscheme⟩ := h
  rw [List.mem_append, not_or]
  exact ⟨notMem_of_not_isSchemeChar hd hc hscheme, by simpa using hcolon⟩

theorem hasScheme_iff {cs : List Char} : hasScheme cs ↔ ∃ p, IsScheme p ∧ p <+: cs := by
  constructor
  · intro h
    unfold hasScheme at h
    split at h
    next c scheme rest hsplit =>
      simp only [Bool.and_eq_true] at h
      exact ⟨_, ⟨c, scheme, rfl, h⟩, rest, (Text.eq_of_splitAt? hsplit).symm⟩
    next => cases h
  · rintro ⟨_, ⟨c, scheme, rfl, hc, hscheme⟩, rest, rfl⟩
    have hcolon : ':' ∉ c :: scheme := notMem_of_not_isSchemeChar (by decide) hc hscheme
    have hsplit := Text.splitAt?_append hcolon rest
    rw [List.append_assoc, List.singleton_append]
    unfold hasScheme
    rw [hsplit]
    simp [hc, hscheme]

theorem hasScheme_append {cs : List Char} (h : hasScheme cs) (rest : List Char) :
    hasScheme (cs ++ rest) := by
  obtain ⟨p, hp, hbegin⟩ := hasScheme_iff.1 h
  exact hasScheme_iff.2 ⟨p, hp, hbegin.trans (List.prefix_append ..)⟩

theorem colon_mem_of_hasScheme {cs : List Char} (h : hasScheme cs) : ':' ∈ cs := by
  obtain ⟨_, ⟨c, scheme, rfl, -⟩, hbegin⟩ := hasScheme_iff.1 h
  exact hbegin.subset (by simp)

theorem origin?_eq_some {origin : List Char} (h : origin? base = some origin) :
    ∃ scheme authority, origin = scheme ++ "://".toList ++ authority ∧
      scheme ++ "://".toList ++ authority <+: base := by
  obtain ⟨⟨scheme, rest⟩, hsplit, rfl⟩ := Option.map_eq_some_iff.1 h
  refine ⟨scheme, rest.takeWhile (· != '/'), rfl, ?_⟩
  rw [Text.eq_of_splitAt? hsplit]
  exact List.prefix_append_right_inj _ |>.2 (List.takeWhile_prefix _)

theorem hasScheme_origin {origin : List Char} (hbase : hasScheme base)
    (h : origin? base = some origin) : hasScheme origin := by
  obtain ⟨scheme, authority, rfl, hbegin⟩ := origin?_eq_some h
  obtain ⟨p, hp, hpbase⟩ := hasScheme_iff.1 hbase
  refine hasScheme_iff.2 ⟨p, hp, ?_⟩
  have hcolon : scheme ++ [':'] <+: scheme ++ "://".toList ++ authority :=
    ⟨"//".toList ++ authority, by simp⟩
  rcases List.prefix_or_prefix_of_prefix hpbase (hcolon.trans hbegin) with hle | hle
  · exact hle.trans hcolon
  · obtain ⟨c, name, rfl, hc, hname⟩ := hp
    rcases List.prefix_concat_iff.1 hle with heq | hinner
    · rw [← heq]
      exact hcolon
    · exact absurd (hinner.subset (by simp))
        (notMem_of_not_isSchemeChar (d := ':') (by decide) hc hname)

theorem hasScheme_directory (h : hasScheme base) : hasScheme (directory base) := by
  obtain ⟨p, hp, rest, rfl⟩ := hasScheme_iff.1 h
  refine hasScheme_iff.2 ⟨p, hp, ?_⟩
  have hslash : '/' ∉ p := hp.notMem (by decide) (by decide)
  unfold directory
  rw [Text.splitAfterLast?_append_of_notMem hslash]
  cases Text.splitAfterLast? '/' rest with
  | none => exact List.prefix_append ..
  | some parts => exact List.prefix_append ..

theorem hasScheme_withoutFragment (h : hasScheme base) : hasScheme (base.takeWhile (· != '#')) := by
  obtain ⟨p, hp, rest, rfl⟩ := hasScheme_iff.1 h
  refine hasScheme_iff.2 ⟨p, hp, ?_⟩
  have hhash : '#' ∉ p := hp.notMem (by decide) (by decide)
  rw [Text.takeWhile_append_of_notMem hhash]
  exact List.prefix_append ..

theorem prefix_directory (base : List Char) : directory base <+: base := by
  unfold directory
  split
  next dir rest hsplit => exact ⟨rest, (Text.eq_of_splitAfterLast? hsplit).symm⟩
  next => exact List.prefix_rfl

theorem directory_subset (base : List Char) : directory base ⊆ base := (prefix_directory base).subset

theorem prefix_front (base reference : List Char) : front base reference <+: base := by
  unfold front
  split
  · exact List.prefix_rfl
  · exact List.takeWhile_prefix _
  · cases horigin : origin? base with
    | none => exact prefix_directory base
    | some origin =>
      obtain ⟨scheme, authority, rfl, hbegin⟩ := origin?_eq_some horigin
      exact hbegin
  · exact prefix_directory base

theorem hasScheme_front (h : hasScheme base) (reference : List Char) :
    hasScheme (front base reference) := by
  unfold front
  split
  · exact h
  · exact hasScheme_withoutFragment h
  · cases horigin : origin? base with
    | none => exact hasScheme_directory h
    | some origin => exact hasScheme_origin h horigin
  · exact hasScheme_directory h

theorem hasScheme_resolveChars (h : hasScheme base) (reference : List Char) :
    hasScheme (resolveChars base reference) := by
  cases href : hasScheme reference with
  | true =>
    rw [resolveChars_of_hasScheme href]
    exact href
  | false =>
    rw [resolveChars_eq_front href]
    exact hasScheme_append (hasScheme_front h reference) reference

theorem writable_resolveChars (hbase : Writable base) (href : Writable reference) :
    Writable (resolveChars base reference) := by
  cases hscheme : hasScheme reference with
  | true => rwa [resolveChars_of_hasScheme hscheme]
  | false =>
    rw [resolveChars_eq_front hscheme, writable_append]
    exact ⟨hbase.of_subset (prefix_front base reference).subset, href⟩

end Iri

def Token.ReferenceWritable : Token → Prop
  | iri reference => Writable reference.toList
  | _ => True

instance : DecidablePred Token.ReferenceWritable
  | .iri reference => inferInstanceAs (Decidable (Writable reference.toList))
  | .prefixed .. | .var _ | .string _ | .tag _ | .integer _ | .decimal _ | .double _ | .word _
  | .blank _ | .mark _ => inferInstanceAs (Decidable True)

/-- A token of some text, and what it refers to can be written. -/
def Token.Regular (token : Token) : Prop := token.Spelled ∧ token.ReferenceWritable

instance : NamesVariables Token.Regular := ⟨fun h => NamesVariables.named h.1⟩

namespace Namespaces

variable {t : Namespaces}

structure NamesWritable (t : Namespaces) : Prop where
  base : ∃ b, t.base = some b ∧ b.Absolute ∧ Writable b.text.toList
  ns : ∀ e ∈ t.prefixes.entries, ':' ∈ e.2.toList ∧ Writable e.2.toList

namespace NamesWritable

theorem resolve (h : t.NamesWritable) {reference : String} (href : Writable reference.toList) :
    (t.resolve reference).Absolute ∧ Writable (t.resolve reference).text.toList := by
  obtain ⟨b, hb, habsolute, hwritable⟩ := h.base
  simp only [Namespaces.resolve, hb, Iri.Absolute, Iri.toList_resolve]
  exact ⟨Iri.hasScheme_resolveChars habsolute _, Iri.writable_resolveChars hwritable href⟩

theorem insert (h : t.NamesWritable) (label : String) {i : Iri} (habsolute : i.Absolute)
    (hi : Writable i.text.toList) : (t.insert label i.text).NamesWritable := by
  refine ⟨h.base, fun e he => ?_⟩
  rcases Dictionary.mem_insertEntry he with rfl | he
  · exact ⟨Iri.colon_mem_of_hasScheme habsolute, hi⟩
  · exact h.ns e he

theorem setBase (h : t.NamesWritable) {b : Iri} (habsolute : b.Absolute)
    (hb : Writable b.text.toList) : (t.setBase b).NamesWritable :=
  ⟨⟨b, rfl, habsolute, hb⟩, h.ns⟩

theorem check (h : t.NamesWritable) {token : Token} (htoken : token.Regular) {i : Iri}
    (hi : t.Names token i) : i.check = .ok () := by
  obtain ⟨hspelled, href⟩ := htoken
  cases token with
  | iri reference =>
    obtain rfl : t.resolve reference = i := hi
    obtain ⟨habsolute, hwritable⟩ := h.resolve href
    exact (Iri.check_iff_writable (Iri.colon_mem_of_hasScheme habsolute)).2 hwritable
  | prefixed label name =>
    obtain ⟨ns, hns, rfl⟩ := Option.map_eq_some_iff.1 hi
    obtain ⟨hcolon, hwritable⟩ := h.ns _ (Dictionary.mem_of_get? hns)
    refine (Iri.check_iff_writable (by simp [hcolon])).2 ?_
    rw [String.toList_append, writable_append]
    exact ⟨hwritable, fun c hc => isUnwritable_of_isLocalChar (hspelled c hc)⟩
  | _ => cases hi

end NamesWritable

end Namespaces

end LinkedRaces
