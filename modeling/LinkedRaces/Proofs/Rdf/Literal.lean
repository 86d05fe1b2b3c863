import LinkedRaces.Proofs.Lexical.Spelling
import LinkedRaces.Proofs.Lexical.Taking
import LinkedRaces.Proofs.Text.Lowercase

/-! Quoted literals: what the readers make of a string with a language tag or a datatype. -/

namespace LinkedRaces

namespace Literal

theorem tagged_eq {l : Literal} {tag : String} (h : l.kind = .language tag) :
    tagged l.lexical tag = l := by
  obtain ⟨lexical, kind, lowered⟩ := l
  simp only at h
  subst h
  obtain ⟨source, rfl⟩ := lowered tag rfl
  simp only [tagged, Text.lowercase_lowercase]

theorem plain_eq {l : Literal} (h : l.kind = .plain) : plain l.lexical = l := by
  obtain ⟨lexical, kind, lowered⟩ := l
  simp only at h
  subst h
  rfl

theorem typed_eq {l : Literal} {datatype : Iri} (h : l.kind = .typed datatype) :
    typed l.lexical datatype = l := by
  obtain ⟨lexical, kind, lowered⟩ := l
  simp only at h
  subst h
  rfl

def TagLegible (l : Literal) : Prop := ∀ tag, l.language? = some tag → IsTag tag

theorem TagLegible.isTag {l : Literal} (h : l.TagLegible) {tag : String}
    (hk : l.kind = .language tag) : IsTag tag :=
  h tag (by simp [language?, hk])

end Literal

/-- After a string these belong to the literal. -/
def ExtendsLiteral (t : Token) : Prop := (∃ tag, t = .tag tag) ∨ t = .mark .doubleCaret

theorem not_extendsLiteral_mark {m : Mark} (h : m ≠ .doubleCaret) : ¬ ExtendsLiteral (.mark m) := by
  simp [ExtendsLiteral, h]

namespace Tokens

variable {ε : Type}

theorem quoted_plain (iri : TokenReader ε Iri) (value : String) (x : Located) {rest : Tokens}
    (h : NextIsNot ExtendsLiteral rest) :
    quoted iri value x rest = took (.plain value) x rest := by
  cases rest with
  | nil => rfl
  | cons y rest =>
    have hy : ¬ ExtendsLiteral y.token := h y rfl
    simp only [ExtendsLiteral, not_or, not_exists] at hy
    simp only [quoted]
    split
    next tag ht => exact absurd ht (hy.1 tag)
    next ht => exact absurd ht hy.2
    next => rfl

theorem quoted_suffix {iri : TokenReader ε Iri} {name : Iri → Token} {l : Literal}
    (hdatatype : ∀ datatype, l.kind = .typed datatype →
      Takes iri [name datatype] datatype Anything)
    {ls : Tokens} (hls : ls.map Located.token = l.suffix name) (x : Located) {rest : Tokens}
    (hrest : NextIsNot ExtendsLiteral rest) :
    ∃ h, quoted iri l.lexical x (ls ++ rest) = .ok ⟨l, rest, h⟩ := by
  unfold Literal.suffix at hls
  cases hk : l.kind with
  | plain =>
    simp only [hk, List.map_eq_nil_iff] at hls
    subst hls
    refine ⟨by simp, ?_⟩
    simp only [List.nil_append, quoted_plain iri l.lexical x hrest, Literal.plain_eq hk]
    rfl
  | language tag =>
    simp only [hk] at hls
    obtain ⟨⟨_, text⟩, rfl, rfl⟩ := List.map_eq_singleton_iff.1 hls
    refine ⟨by grind, ?_⟩
    simp [quoted, Reading.stay, Reading.loosen, Reading.weaken, Literal.tagged_eq hk, pure,
      Except.pure]
  | typed datatype =>
    simp only [hk] at hls
    obtain ⟨⟨_, text⟩, ls, rfl, rfl, hname⟩ := List.map_eq_cons_iff.1 hls
    obtain ⟨hlt, hread⟩ := hdatatype datatype hk ls rest hname trivial
    refine ⟨by simp at hlt ⊢; omega, ?_⟩
    simp only [List.cons_append, quoted, hread, bind, Except.bind, pure, Except.pure]
    simp [Reading.map, Reading.loosen, Reading.weaken, Literal.typed_eq hk]

end Tokens

end LinkedRaces
