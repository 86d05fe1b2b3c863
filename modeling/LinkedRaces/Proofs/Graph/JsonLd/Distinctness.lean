import LinkedRaces.Proofs.Graph.JsonLd
import LinkedRaces.Proofs.Rdf.Compaction
import LinkedRaces.Proofs.Rdf.Directory

/-!
Which different terms share a JSON-LD value, and which different IRIs a key. An IRI that has no short
form may be spelled like the short form of another one, and a number may be spelled in several ways.
Nothing else is lost.
-/

namespace LinkedRaces

theorem Iri.text_inj {i j : Iri} : i.text = j.text ↔ i = j :=
  ⟨fun h => by cases i; cases j; exact congrArg Iri.mk h, congrArg Iri.text⟩

namespace Namespaces

variable {t : Namespaces} {iri iri' : String} {a b : Abbreviation}

/-- A local name has no colon, so an abbreviation is parted at its last one. -/
theorem Abbreviation.eq_of_text_eq (ha : isLocalName a.name) (hb : isLocalName b.name)
    (h : a.text = b.text) : a.label = b.label ∧ a.name = b.name := by
  have hchars : a.label.toList ++ ':' :: a.name = b.label.toList ++ ':' :: b.name := by
    rw [← toList_text, ← toList_text, h]
  have hparts := congrArg (Text.splitAfterLast? ':') hchars
  rw [splitAfterLast?_append (notMem_of_isLocalName ha (by decide)),
    splitAfterLast?_append (notMem_of_isLocalName hb (by decide))] at hparts
  obtain ⟨hlabel, hname⟩ := Prod.mk.inj (Option.some.inj hparts)
  exact ⟨String.toList_inj.1 (List.append_cancel_right hlabel), hname⟩

theorem eq_of_compact? {text : String} (h : t.compact? iri = some text)
    (h' : t.compact? iri' = some text) : iri = iri' := by
  rw [compact?_eq] at h h'
  obtain ⟨a, ha, rfl⟩ := Option.map_eq_some_iff.1 h
  obtain ⟨b, hb, htext⟩ := Option.map_eq_some_iff.1 h'
  obtain ⟨hlabel, hname⟩ :=
    Abbreviation.eq_of_text_eq (abbreviate?_spec ha).2.2 (abbreviate?_spec hb).2.2 htext.symm
  have hns : a.ns = b.ns := by
    have hget := get?_abbreviation hb
    rw [← hlabel, get?_abbreviation ha] at hget
    exact Option.some.inj hget
  rw [← text_abbreviation ha, ← text_abbreviation hb, hns, hname]

end Namespaces

namespace JsonLd

variable {t : Namespaces}

/-- `i` is written as it is, and that is also how `j` is shortened. -/
structure Imitates (t : Namespaces) (i j : Iri) : Prop where
  unshortened : t.compact? i.text = none
  short : t.compact? j.text = some i.text

theorem Imitates.compact_eq {i j : Iri} (h : Imitates t i j) : compact t i = compact t j := by
  rw [compact, compact, h.unshortened, h.short, Option.getD_none, Option.getD_some]

theorem compact_eq_iff (t : Namespaces) (i j : Iri) :
    compact t i = compact t j ↔ i = j ∨ Imitates t i j ∨ Imitates t j i := by
  constructor
  · intro h
    unfold compact at h
    cases hi : t.compact? i.text with
    | none =>
      rw [hi, Option.getD_none] at h
      cases hj : t.compact? j.text with
      | none => exact .inl (Iri.text_inj.1 (by rw [h, hj, Option.getD_none]))
      | some text => exact .inr (.inl ⟨hi, by rw [h, hj, Option.getD_some]⟩)
    | some text =>
      rw [hi, Option.getD_some] at h
      cases hj : t.compact? j.text with
      | none =>
        rw [hj, Option.getD_none] at h
        exact .inr (.inr ⟨hj, h ▸ hi⟩)
      | some text' =>
        rw [hj, Option.getD_some] at h
        exact .inl (Iri.text_inj.1 (Namespaces.eq_of_compact? hi (h ▸ hj)))
  · rintro (rfl | h | h)
    · rfl
    · exact h.compact_eq
    · exact h.compact_eq.symm

theorem Imitates.mistakable {i j : Iri} (h : Imitates t i j) : ¬ Unmistakable t i := by
  intro hi
  obtain ⟨a, ha, htext⟩ := Option.map_eq_some_iff.1 h.short
  obtain ⟨hmem, -, hlocal⟩ := Namespaces.abbreviate?_spec (a := a) ha
  have hslashes := hi _ hmem a.name (by rw [← htext, Namespaces.toList_text])
  have hnone := not_slashes_of_isLocalName hlocal
  rw [List.isPrefixOf_iff_prefix.2 hslashes] at hnone
  cases hnone

theorem ofInt_inj {m n : Int} : Json.ofInt m = Json.ofInt n ↔ m = n := by
  refine ⟨fun h => ?_, congrArg Json.ofInt⟩
  have hnumeral : Json.Numeral.ofInt m = Json.Numeral.ofInt n := Json.number.inj h
  simp only [Json.Numeral.ofInt, Json.Numeral.mk.injEq, decide_eq_decide, and_true] at hnumeral
  obtain ⟨hsign, hdigits⟩ := hnumeral
  have habs : m.natAbs = n.natAbs := by
    simpa [Nat.ofDigitChars_ten_toDigits] using congrArg (Nat.ofDigitChars 10 · 0) hdigits
  omega

/-- The value of a literal, by its kind. What has no native value keeps its datatype. -/
inductive Spells (t : Namespaces) (l : Literal) : Json → Prop
  | plain (hk : l.kind = .plain) : Spells t l (.string l.lexical)
  | tagged (tag : String) (hk : l.kind = .language tag) :
    Spells t l (.object [("@value", .string l.lexical), ("@language", .string tag)])
  | number (n : Int) (hk : l.kind = .typed Vocabulary.xsdInteger) (hn : l.integer? = some n) :
    Spells t l (Json.ofInt n)
  | truth (b : Bool) (hk : l.kind = .typed Vocabulary.xsdBoolean) (hb : l.lexical = toString b) :
    Spells t l (.bool b)
  | typed (datatype : Iri) (hk : l.kind = .typed datatype) (hnone : native? l datatype = none) :
    Spells t l (.object [("@value", .string l.lexical), ("@type", .string (compact t datatype))])

theorem spells_native {l : Literal} {datatype : Iri} {value : Json} (hk : l.kind = .typed datatype)
    (h : native? l datatype = some value) : Spells t l value := by
  unfold native? at h
  split at h
  next hinteger =>
    obtain ⟨n, hn, rfl⟩ := Option.map_eq_some_iff.1 h
    exact .number n (hinteger ▸ hk) hn
  next =>
    obtain ⟨hboolean, h⟩ := Option.ite_none_right_eq_some.1 h
    split at h
    next hlexical => exact Option.some.inj h ▸ .truth true (hboolean ▸ hk) hlexical
    next =>
      obtain ⟨hlexical, h⟩ := Option.ite_none_right_eq_some.1 h
      exact Option.some.inj h ▸ .truth false (hboolean ▸ hk) hlexical

theorem spells_literalValue (t : Namespaces) (l : Literal) : Spells t l (literalValue t l) := by
  unfold literalValue
  split
  next hk => exact .plain hk
  next tag hk => exact .tagged tag hk
  next datatype hk =>
    cases hnative : native? l datatype with
    | some value => exact spells_native hk hnative
    | none => exact .typed datatype hk hnative

/-- Two numbers of one value, or else two literals of which one has a datatype that imitates the
datatype of the other. -/
inductive Merged (t : Namespaces) (k l : Literal) : Prop
  | number (n : Int) (hk : k.kind = .typed Vocabulary.xsdInteger)
    (hl : l.kind = .typed Vocabulary.xsdInteger) (hkn : k.integer? = some n)
    (hln : l.integer? = some n)
  | datatype (d e : Iri) (hlexical : k.lexical = l.lexical) (hk : k.kind = .typed d)
    (hl : l.kind = .typed e) (hkn : native? k d = none) (hln : native? l e = none)
    (himitates : Imitates t d e ∨ Imitates t e d)

theorem eq_or_merged {k l : Literal} {v w : Json} (hv : Spells t k v) (hw : Spells t l w)
    (h : v = w) : k = l ∨ Merged t k l := by
  cases hv with
  | plain hk =>
    cases hw with
    | plain hl =>
      left
      rw [← Literal.plain_eq hk, ← Literal.plain_eq hl, Json.string.inj h]
    | _ => nomatch h
  | tagged tag hk =>
    cases hw with
    | tagged tag' hl =>
      simp only [Json.object.injEq, List.cons.injEq, Prod.mk.injEq, Json.string.injEq, true_and,
        and_true] at h
      left
      rw [← Literal.tagged_eq hk, ← Literal.tagged_eq hl, h.1, h.2]
    | typed e hl hln => simp at h
    | _ => nomatch h
  | number m hk hm =>
    cases hw with
    | number n hl hn => exact .inr (.number m hk hl hm (ofInt_inj.1 h ▸ hn))
    | _ => nomatch h
  | truth b hk hb =>
    cases hw with
    | truth c hl hc =>
      left
      rw [← Literal.typed_eq hk, ← Literal.typed_eq hl, hb, hc, Json.bool.inj h]
    | _ => nomatch h
  | typed d hk hkn =>
    cases hw with
    | typed e hl hln =>
      simp only [Json.object.injEq, List.cons.injEq, Prod.mk.injEq, Json.string.injEq, true_and,
        and_true] at h
      obtain ⟨hlexical, hdatatype⟩ := h
      rcases (compact_eq_iff t d e).1 hdatatype with rfl | himitates
      · left
        rw [← Literal.typed_eq hk, ← Literal.typed_eq hl, hlexical]
      · exact .inr (.datatype d e hlexical hk hl hkn hln himitates)
    | tagged tag hl => simp at h
    | _ => nomatch h

theorem Merged.literalValue_eq {k l : Literal} (h : Merged t k l) :
    literalValue t k = literalValue t l := by
  cases h with
  | number n hk hl hkn hln => simp [literalValue, hk, hl, native?, hkn, hln]
  | datatype d e hlexical hk hl hkn hln himitates =>
    simp only [literalValue, hk, hl, hkn, hln, hlexical, (compact_eq_iff t d e).2 (.inr himitates)]

theorem literalValue_eq_iff (t : Namespaces) (k l : Literal) :
    literalValue t k = literalValue t l ↔ k = l ∨ Merged t k l := by
  refine ⟨eq_or_merged (spells_literalValue t k) (spells_literalValue t l), ?_⟩
  rintro (rfl | h)
  · rfl
  · exact h.literalValue_eq

theorem literalValue_ne_id (t : Namespaces) (l : Literal) (value : Json) :
    literalValue t l ≠ .object [("@id", value)] := by
  intro h
  have hspells := spells_literalValue t l
  rw [h] at hspells
  generalize hv : Json.object [("@id", value)] = v at hspells
  cases hspells with
  | tagged | typed => simp at hv
  | _ => nomatch hv

/-- Two terms that can be written have the same value exactly if they are equal, or literals that
are merged. Two IRIs have the same key exactly if they are equal, or if one imitates the other; and
what cannot be mistaken for a short form imitates none. -/
theorem clash_iff (t : Namespaces) :
    (∀ a b : Term, a.check = .ok () → b.check = .ok () →
      ∃ v w, objectValue t a = .ok v ∧ objectValue t b = .ok w ∧
        (v = w ↔ a = b ∨ ∃ k l, a = .literal k ∧ b = .literal l ∧ Merged t k l)) ∧
    (∀ i j, compact t i = compact t j ↔ i = j ∨ Imitates t i j ∨ Imitates t j i) ∧
    ∀ i j, Imitates t i j → ¬ Unmistakable t i := by
  refine ⟨fun a b ha hb => ?_, compact_eq_iff t, fun i j => Imitates.mistakable⟩
  cases a with
  | var name => cases ha
  | iri i =>
    cases b with
    | var name => cases hb
    | iri j => exact ⟨_, _, rfl, rfl, by simp [Iri.text_inj]⟩
    | literal l => exact ⟨_, _, rfl, rfl, by simp [(literalValue_ne_id t l _).symm]⟩
  | literal k =>
    cases b with
    | var name => cases hb
    | iri j => exact ⟨_, _, rfl, rfl, by simp [literalValue_ne_id t k]⟩
    | literal l => exact ⟨_, _, rfl, rfl, by simp [literalValue_eq_iff]⟩

theorem clash_iff_laps :
    (Term.literal (.typed "12" Vocabulary.xsdInteger)).check = .ok () ∧
    (Term.literal (.typed "12" Vocabulary.xsdDecimal)).check = .ok () ∧
    ∃ v w,
      objectValue .wellKnown (.literal (.typed "12" Vocabulary.xsdInteger)) = .ok v ∧
      objectValue .wellKnown (.literal (.typed "12" Vocabulary.xsdDecimal)) = .ok w ∧ v ≠ w := by
  have hinteger : (Term.literal (.typed "12" Vocabulary.xsdInteger)).check = .ok () := by
    decide
  have hdecimal : (Term.literal (.typed "12" Vocabulary.xsdDecimal)).check = .ok () := by
    decide
  refine ⟨hinteger, hdecimal, ?_⟩
  obtain ⟨v, w, hv, hw, hiff⟩ := (clash_iff .wellKnown).1 _ _ hinteger hdecimal
  refine ⟨v, w, hv, hw, fun h => ?_⟩
  rcases hiff.1 h with h | ⟨k, l, hk, hl, hmerged⟩
  · exact absurd h (by decide)
  · cases hk
    cases hl
    cases hmerged with
    | number n hk hl => exact absurd hl (by decide)
    | datatype d e hlexical hk hl hkn => cases hk; cases hkn

theorem clash_of_spellings :
    (Term.literal (.typed "5" Vocabulary.xsdInteger)).check = .ok () ∧
    (Term.literal (.typed "05" Vocabulary.xsdInteger)).check = .ok () ∧
    objectValue .wellKnown (.literal (.typed "5" Vocabulary.xsdInteger)) =
      objectValue .wellKnown (.literal (.typed "05" Vocabulary.xsdInteger)) ∧
    (Vocabulary.schemaName "name").check = .ok () ∧ Iri.check ⟨"schema:name"⟩ = .ok () ∧
    compact .wellKnown (Vocabulary.schemaName "name") = compact .wellKnown ⟨"schema:name"⟩ := by
  refine ⟨by decide, by decide, ?_, by decide, by decide,
    by decide⟩
  have hmerged : Merged .wellKnown (.typed "5" Vocabulary.xsdInteger)
      (.typed "05" Vocabulary.xsdInteger) :=
    .number 5 rfl rfl (by decide) (by decide)
  exact congrArg Except.ok hmerged.literalValue_eq

end JsonLd

end LinkedRaces
