import LinkedRaces.Proofs.Lexical.Numerals
import LinkedRaces.Proofs.Lexical.Simulation
import LinkedRaces.Proofs.Rdf.Literal
import LinkedRaces.Proofs.Rdf.Namespaces

/-!
A number with and without quotes. The tokens of two texts that differ in that are the same before
the number and behind it. Readers go through them side by side: what comes next is the same in both
until the number is reached, where a reader of literals takes the string with its datatype from the
one and the number from the other. If the sign was split off, that reader fails.
-/

namespace LinkedRaces

/-- The number is written without quotes in the second list. It comes later in both, or is behind
both already; past a sign that was split off no reader gets. -/
inductive Unquoted (n : Numeral) (x : Context) (ts us : Tokens) : Prop
  | ahead (before after : List Token)
    (quoted : ts.map Located.token = before ++ (n.literal.tokens Iri.token ++ after))
    (bare : us.map Located.token = before ++ (n.tokens x ++ after))
  | behind (whole : ¬ n.Splits x) (same : us.map Located.token = ts.map Located.token)

inductive Token.OpensLiteral : Token → Prop
  | string (value : String) : OpensLiteral (.string value)
  | integer (digits : String) : OpensLiteral (.integer digits)
  | decimal (digits : String) : OpensLiteral (.decimal digits)
  | double (digits : String) : OpensLiteral (.double digits)
  | plus : OpensLiteral (.mark .plus)
  | minus : OpensLiteral (.mark .minus)

namespace Token.OpensLiteral

variable {t : Token}

theorem not_extendsLiteral (h : t.OpensLiteral) : ¬ ExtendsLiteral t := by
  cases h <;> simp [ExtendsLiteral]

theorem ne_mark (h : t.OpensLiteral) {m : Mark} (hplus : m ≠ .plus) (hminus : m ≠ .minus) :
    t ≠ .mark m := by
  rintro rfl
  cases h with
  | plus => exact hplus rfl
  | minus => exact hminus rfl

theorem isKeyword (h : t.OpensLiteral) (keyword : String) : t.isKeyword keyword = false := by
  cases h <;> rfl

end Token.OpensLiteral

namespace Numeral

def opening (n : Numeral) (x : Context) : Token :=
  if n.Splits x then .mark n.operator else n.token

theorem opensLiteral_token (n : Numeral) : n.token.OpensLiteral := by
  unfold token
  split
  · exact .double _
  · split
    · exact .decimal _
    · exact .integer _

theorem token_ne_mark (n : Numeral) (m : Mark) : n.token ≠ .mark m := by
  unfold token
  split
  · nofun
  · split <;> nofun

theorem opensLiteral_opening (n : Numeral) (x : Context) : (n.opening x).OpensLiteral := by
  unfold opening
  split
  · unfold operator
    split
    · exact .plus
    · exact .minus
  · exact n.opensLiteral_token

theorem opening_cases (n : Numeral) (x : Context) :
    n.Splits x ∧ (n.opening x = .mark .plus ∨ n.opening x = .mark .minus) ∨
      ¬ n.Splits x ∧ n.opening x = n.token := by
  by_cases hsplit : n.Splits x
  · refine .inl ⟨hsplit, ?_⟩
    rw [opening, if_pos hsplit, operator]
    split
    · exact .inl rfl
    · exact .inr rfl
  · exact .inr ⟨hsplit, if_neg hsplit⟩

theorem absolute_datatype (n : Numeral) : n.datatype.Absolute := by
  unfold datatype
  split
  · show Iri.hasScheme _ = true
    decide
  · split
    all_goals
      show Iri.hasScheme _ = true
      decide

end Numeral

theorem Tokens.quoted_number {ε : Type} {iri : TokenReader ε Iri} {n : Numeral}
    (hiri : ∀ text rest, iri (⟨n.datatype.token, text⟩ :: rest) =
      took n.datatype ⟨n.datatype.token, text⟩ rest) (a : Located) (b c : List Char) (ts : Tokens) :
    ∃ h, quoted iri (String.ofList n.text) a
      (⟨.mark .doubleCaret, b⟩ :: ⟨n.datatype.token, c⟩ :: ts) = .ok ⟨n.literal, ts, h⟩ :=
  ⟨by simp; omega, by simp only [quoted, hiri]; rfl⟩

namespace Unquoted

variable {n : Numeral} {x : Context}

inductive Next (n : Numeral) (x : Context) : Tokens → Tokens → Prop
  | nil (whole : ¬ n.Splits x) : Next n x [] []
  | same (tok : Token) (text text' : List Char) {ts us : Tokens} (rest : Unquoted n x ts us) :
    Next n x (⟨tok, text⟩ :: ts) (⟨tok, text'⟩ :: us)
  | number (a b c text : List Char) {ts us : Tokens}
    (rest : ¬ n.Splits x → Unquoted n x ts us) :
    Next n x (⟨.string (String.ofList n.text), a⟩ :: ⟨.mark .doubleCaret, b⟩ ::
      ⟨n.datatype.token, c⟩ :: ts) (⟨n.opening x, text⟩ :: us)

theorem next {ts us : Tokens} (h : Unquoted n x ts us) : Next n x ts us := by
  rcases h with ⟨before, after, hts, hus⟩ | ⟨hwhole, hsame⟩
  · cases before with
    | nil =>
      obtain ⟨⟨_, a⟩, ts₁, rfl, rfl, hts₁⟩ := List.map_eq_cons_iff.1 hts
      obtain ⟨⟨_, b⟩, ts₂, rfl, rfl, hts₂⟩ := List.map_eq_cons_iff.1 hts₁
      obtain ⟨⟨_, c⟩, ts₃, rfl, rfl, hts₃⟩ := List.map_eq_cons_iff.1 hts₂
      by_cases hsplit : n.Splits x
      · have hopening : n.opening x = .mark n.operator := if_pos hsplit
        rw [Numeral.tokens, if_pos hsplit, ← hopening] at hus
        obtain ⟨⟨_, text⟩, us, rfl, rfl, -⟩ := List.map_eq_cons_iff.1 hus
        exact .number a b c text (absurd hsplit)
      · have hopening : n.opening x = n.token := if_neg hsplit
        rw [Numeral.tokens, if_neg hsplit, ← hopening] at hus
        obtain ⟨⟨_, text⟩, us, rfl, rfl, hafter⟩ := List.map_eq_cons_iff.1 hus
        exact .number a b c text fun hwhole => .behind hwhole (hafter.trans hts₃.symm)
    | cons tok before =>
      obtain ⟨⟨_, text⟩, ts, rfl, rfl, hquoted⟩ := List.map_eq_cons_iff.1 hts
      obtain ⟨⟨_, text'⟩, us, rfl, rfl, hbare⟩ := List.map_eq_cons_iff.1 hus
      exact .same _ text text' (.ahead before after hquoted hbare)
  · cases ts with
    | nil =>
      obtain rfl := List.map_eq_nil_iff.1 hsame
      exact .nil hwhole
    | cons a ts =>
      obtain ⟨tok, text⟩ := a
      obtain ⟨⟨_, text'⟩, us, rfl, rfl, hus⟩ := List.map_eq_cons_iff.1 hsame
      exact .same _ text text' (.behind hwhole hus)

theorem of_cons {tok : Token} {text : List Char} {ts us : Tokens}
    (h : Unquoted n x (⟨tok, text⟩ :: ts) us) (hts : NextIsNot (· = .mark .doubleCaret) ts) :
    ∃ text' us', us = ⟨tok, text'⟩ :: us' ∧ Unquoted n x ts us' := by
  cases h.next with
  | same tok text text' rest => exact ⟨_, _, rfl, rest⟩
  | number => exact absurd rfl (hts _ rfl)

/-- What is taken from both lists is the same, and related lists are left; or the sign of the number
was split off, and nothing is taken from the second. -/
abbrev Agree {ε α : Type} (n : Numeral) (x : Context) {k m : Nat}
    (r : Except ε (Reading Located α k)) (r' : Except ε (Reading Located α m)) : Prop :=
  Follows (n.Splits x) (Reading.Similar (Unquoted n x) id) r r'

theorem Agree.andThen {ε α β γ : Type} {k m : Nat} {W : β → γ → Prop}
    {r : Except ε (Reading Located α k)} {r' : Except ε (Reading Located α m)}
    {f : Reading Located α k → Except ε β} {g : Reading Located α m → Except ε γ}
    (h : Agree n x r r')
    (hfg : ∀ value rest rest' hlt hlt', Unquoted n x rest rest' →
      Follows (n.Splits x) W (f ⟨value, rest, hlt⟩) (g ⟨value, rest', hlt'⟩)) :
    Follows (n.Splits x) W (r >>= f) (r' >>= g) := by
  refine Follows.bind h fun a b hab => ?_
  obtain ⟨value, rest, hlt⟩ := a
  obtain ⟨value', rest', hlt'⟩ := b
  obtain rfl : value = value' := hab.1.symm
  exact hfg value rest rest' hlt hlt' hab.2

theorem skipsAlike {m : Mark} (hplus : m ≠ .plus) (hminus : m ≠ .minus) :
    SkipsAlike (Unquoted n x) m := by
  have hopens {tok : Token} (htok : tok.OpensLiteral) (text : List Char) (ts : Tokens) :
      NextIsNot (· = .mark m) (⟨tok, text⟩ :: ts) :=
    nextIsNot_cons (htok.ne_mark hplus hminus) ts
  intro ts us h
  cases h.next with
  | nil => exact .inl ⟨by simp [NextIsNot], by simp [NextIsNot]⟩
  | @same tok text text' ts us rest =>
    by_cases htok : tok = .mark m
    · exact .inr ⟨_, _, ts, us, rfl, rfl, htok, htok, rest⟩
    · exact .inl ⟨nextIsNot_cons htok ts, nextIsNot_cons htok us⟩
  | number =>
    exact .inl ⟨hopens (.string _) _ _, hopens (n.opensLiteral_opening x) _ _⟩

theorem nextIsNot {m : Mark} (hplus : m ≠ .plus) (hminus : m ≠ .minus) {ts us : Tokens}
    (h : Unquoted n x ts us) (hts : NextIsNot (· = .mark m) ts) : NextIsNot (· = .mark m) us := by
  rcases skipsAlike hplus hminus h with ⟨-, hus⟩ | ⟨a, _, _, _, rfl, -, ha, -⟩
  · exact hus
  · exact absurd ha (hts a rfl)

section Readers

variable {ε α : Type} {ts us : Tokens}

theorem agree_took (value : α) (a b : Located) (h : Unquoted n x ts us) :
    Agree n x (Tokens.took value a ts : Taken ε α (a :: ts)) (Tokens.took value b us) :=
  .ok ⟨rfl, h⟩

theorem agree_mark (m : Mark) (fault : Tokens → ε) (h : Unquoted n x ts us) :
    Agree n x (Tokens.mark m fault ts) (Tokens.mark m fault us) := by
  cases h.next with
  | nil => exact .error _ _
  | same tok text text' rest =>
    rw [Tokens.mark, Tokens.mark]
    dsimp only
    split
    · exact agree_took () _ _ rest
    · exact .error _ _
  | number => exact .error _ _

theorem agree_reference (t : Namespaces) (fault fault' : Tokens → ε) (h : Unquoted n x ts us) :
    Agree n x (Tokens.reference t fault ts) (Tokens.reference t fault' us) := by
  cases h.next with
  | nil => exact .error _ _
  | same tok text text' rest =>
    cases tok with
    | iri body => exact agree_took _ _ _ rest
    | _ => exact .error _ _
  | number => exact .error _ _

theorem agree_prefixDeclaration (t : Namespaces) (labelFault labelFault' : Tokens → ε)
    (referenceFault : Located → Tokens → ε) (h : Unquoted n x ts us) :
    Agree n x (Tokens.prefixDeclaration t labelFault referenceFault ts)
      (Tokens.prefixDeclaration t labelFault' referenceFault us) := by
  cases h.next with
  | nil => exact .error _ _
  | same tok text text' rest =>
    rw [Tokens.prefixDeclaration, Tokens.prefixDeclaration]
    dsimp only
    split
    · exact (agree_reference t _ _ rest).andThen fun i _ _ _ _ hrest => .ok ⟨rfl, hrest⟩
    · exact .error _ _
  | number => exact .error _ _

theorem agree_quoted {iri iri' : TokenReader ε Iri}
    (hiri : ∀ {ts us}, Unquoted n x ts us → Agree n x (iri ts) (iri' us)) (value : String)
    (a b : Located) (h : Unquoted n x ts us) :
    Agree n x (Tokens.quoted iri value a ts) (Tokens.quoted iri' value b us) := by
  cases h.next with
  | nil => exact .ok ⟨rfl, h⟩
  | same tok text text' rest =>
    rw [Tokens.quoted, Tokens.quoted]
    dsimp only
    split
    · exact .ok ⟨rfl, rest⟩
    · exact (hiri rest).andThen fun i _ _ _ _ hrest => .ok ⟨rfl, hrest⟩
    · exact .ok ⟨rfl, h⟩
  | @number _ _ _ text _ us =>
    have hopening : NextIsNot ExtendsLiteral (⟨n.opening x, text⟩ :: us) :=
      nextIsNot_cons (n.opensLiteral_opening x).not_extendsLiteral us
    rw [Tokens.quoted_plain iri' value b hopening]
    exact .ok ⟨rfl, h⟩

theorem agree_commaSeparated {item : TokenReader ε α}
    (hitem : ∀ {ts us}, Unquoted n x ts us → Agree n x (item ts) (item us))
    (h : Unquoted n x ts us) :
    Agree n x (Tokens.commaSeparated item ts) (Tokens.commaSeparated item us) := by
  have hitems := Tokens.follows_commaSeparated (skipsAlike (by decide) (by decide)) hitem h
  rwa [List.map_id_fun] at hitems

theorem agree_semicolonSeparated {part : TokenReader ε (List α)} {atEnd : Tokens → Bool}
    (hpart : ∀ {ts us}, Unquoted n x ts us → Agree n x (part ts) (part us))
    (hend : ∀ {ts us}, Unquoted n x ts us → atEnd us = atEnd ts) (h : Unquoted n x ts us) :
    Agree n x (Tokens.semicolonSeparated part atEnd ts)
      (Tokens.semicolonSeparated part atEnd us) := by
  have hparts := Tokens.follows_semicolonSeparated (f := id) (skipsAlike (by decide) (by decide))
    (by rwa [List.map_id_fun]) (fun h => (hend h).trans) (fun h hgoes _ => (hend h).trans hgoes) h
  rwa [List.map_id_fun] at hparts

end Readers

end Unquoted

end LinkedRaces
