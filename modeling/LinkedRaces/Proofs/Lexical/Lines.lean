import LinkedRaces.Proofs.Lexical.Spelling
import LinkedRaces.Proofs.Lexical.Taking

/-!
Text outside parentheses. `LexesOutside cs ts` says that `cs` is read as the tokens `ts` wherever no
parenthesis is open, and leaves none open, so that such texts can stand one behind the other, in
lines or with separators.
-/

namespace LinkedRaces

def LexesOutside (cs : List Char) (ts : List Token) : Prop :=
  ∀ x : Context, x.depth = 0 → Lexes x cs ts ∧ (x.through ts).depth = 0

theorem Term.mark_notMem_tokens {name : Iri → Token} (hname : ∀ i m, name i ≠ .mark m) (t : Term)
    {m : Mark} (hm : m ≠ .doubleCaret) : .mark m ∉ t.tokens name := by
  cases t with
  | iri i => simpa [tokens] using (hname i m).symm
  | literal l =>
    simp only [tokens, Literal.tokens, Literal.suffix]
    cases l.kind with
    | plain => simp
    | language tag => simp
    | typed datatype => simpa [hm] using (hname datatype m).symm
  | var name => simp [tokens]

namespace LexesOutside

variable {cs ds : List Char} {ts us : List Token} {α : Type} {as : List α}
  {f : α → List Char} {g : α → List Token}

theorem nil : LexesOutside [] [] := fun x hx => ⟨Lexes.nil x, hx⟩

theorem of_lexes (h : ∀ x : Context, x.depth = 0 → Lexes x cs ts)
    (ho : .mark .openParen ∉ ts) (hc : .mark .closeParen ∉ ts) : LexesOutside cs ts :=
  fun x hx => ⟨h x hx, (x.depth_through ho hc).trans hx⟩

theorem blank {c : Char} (hc : Text.isBlank c) (h : LexesOutside cs ts) :
    LexesOutside (c :: cs) ts :=
  fun x hx => ⟨(h x hx).1.blank hc, (h x hx).2⟩

theorem blanks {bs : List Char} (hb : ∀ c ∈ bs, Text.isBlank c) (h : LexesOutside cs ts) :
    LexesOutside (bs ++ cs) ts := by
  induction bs with
  | nil => exact h
  | cons c bs ih =>
    obtain ⟨hc, hbs⟩ := List.forall_mem_cons.1 hb
    exact (ih hbs).blank hc

theorem spaced {c : Char} (h₁ : LexesOutside cs ts) (hc : Text.isBlank c)
    (h₂ : LexesOutside ds us) : LexesOutside (cs ++ c :: ds) (ts ++ us) := by
  intro x hx
  obtain ⟨hlex₁, hx₁⟩ := h₁ x hx
  obtain ⟨hlex₂, hx₂⟩ := h₂ (x.through ts) hx₁
  exact ⟨hlex₁.spaced hc hlex₂, by rwa [Context.through_append]⟩

theorem mark (m : Mark) (ho : m ≠ .openParen) (hc : m ≠ .closeParen) :
    LexesOutside m.text.toList [.mark m] :=
  of_lexes (fun x _ => lexes_mark x m) (by simpa using ho.symm) (by simpa using hc.symm)

theorem lines (h : ∀ a ∈ as, LexesOutside (f a) (g a)) (hd : LexesOutside ds us) :
    LexesOutside ((as.flatMap fun a => f a ++ ['\n']) ++ ds) (as.flatMap g ++ us) := by
  induction as with
  | nil => exact hd
  | cons a as ih =>
    obtain ⟨ha, has⟩ := List.forall_mem_cons.1 h
    have hline := ha.spaced (show Text.isBlank '\n' by decide) (ih has)
    simpa using hline

theorem sepBy (m : Mark) (b : Char) (bs : List Char) (ho : m ≠ .openParen) (hc : m ≠ .closeParen)
    (hb : ∀ c ∈ b :: bs, Text.isBlank c) (h : ∀ a ∈ as, LexesOutside (f a) (g a)) :
    LexesOutside ((' ' :: (m.text.toList ++ b :: bs)).intercalate (as.map f))
      (Tokens.sepBy m (as.map g)) := by
  induction as with
  | nil => exact nil
  | cons a as ih =>
    obtain ⟨ha, has⟩ := List.forall_mem_cons.1 h
    cases as with
    | nil => simpa [Tokens.sepBy] using ha
    | cons a' as =>
      obtain ⟨hfirst, hblanks⟩ := List.forall_mem_cons.1 hb
      have hrest := ha.spaced (show Text.isBlank ' ' by decide)
        ((mark m ho hc).spaced hfirst ((ih has).blanks hblanks))
      simpa [Tokens.sepBy, List.intercalate_cons_cons] using hrest

theorem tag (tag : String) (h : IsTag tag) : LexesOutside ('@' :: tag.toList) [.tag tag] :=
  of_lexes (fun x _ => lexes_tag h x) (by simp) (by simp)

theorem prefixed (label name : List Char) (hl : Scanner.isLabel label)
    (hn : Scanner.isName name) :
    LexesOutside (label ++ ':' :: name)
      [.prefixed (String.ofList label) (String.ofList name)] :=
  of_lexes (fun x _ => lexes_prefixed hl hn x) (by simp) (by simp)

theorem reference {body : List Char} (h : ∀ c ∈ body, Scanner.isReferenceChar c) :
    LexesOutside ('<' :: (body ++ ['>'])) [.iri (String.ofList body)] :=
  of_lexes (fun _ hx => lexes_reference h (Context.compares_of_depth hx)) (by simp) (by simp)

theorem iri {i : Iri} (h : i.Legible) : LexesOutside i.display.toList [i.token] := by
  simpa [Iri.display, Iri.token] using reference h

theorem term {t : Term} (h : t.Legible) : LexesOutside t.display.toList (t.tokens Iri.token) := by
  have hname : ∀ i m, Iri.token i ≠ .mark m := nofun
  refine of_lexes (fun _ hx => lexes_term h (Context.compares_of_depth hx)) ?_ ?_
  · exact Term.mark_notMem_tokens hname t (by decide)
  · exact Term.mark_notMem_tokens hname t (by decide)

end LexesOutside

theorem tokenize_of_lexesOutside {cs : List Char} {ts : List Token} (h : LexesOutside cs ts) :
    ∃ ls, tokenize cs = .ok ls ∧ ls.map Located.token = ts :=
  tokenize_of_lexes (h .start rfl).1

end LinkedRaces
