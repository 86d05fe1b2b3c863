import LinkedRaces.Proofs.Lexical.Lines
import LinkedRaces.Proofs.Query.Grammar
import LinkedRaces.Proofs.Query.Rendering

/-!
The text of a query is read as the tokens of its words. Inside parentheses an angle bracket opens a
reference only where no value came before it, so the words of an expression are followed together
with the context that they leave.
-/

namespace LinkedRaces

def Word.Fits (x : Context) : Word → Prop
  | term t => t.Legible ∧ x.compares = false
  | mark _ | count _ => True
  | name text => Scanner.isBareWord text.toList

theorem Word.lexes {w : Word} {x : Context} (h : w.Fits x) : Lexes x w.text.toList w.tokens := by
  cases w with
  | term t => exact lexes_term h.1 h.2
  | mark m => exact lexes_mark x m
  | name text =>
    have hword := lexes_word h x
    rwa [String.ofList_toList] at hword
  | count n =>
    have hdigits : ∀ c ∈ Nat.toDigits 10 n, c.isDigit :=
      fun c hc => Nat.isDigit_of_mem_toDigits (by decide) (by decide) hc
    have hcount := lexes_digits Nat.toDigits_ne_nil hdigits x
    simpa [Word.text, Word.tokens, Nat.repr_eq_ofList_toDigits] using hcount

namespace Words

def Fit : Context → List Word → Prop
  | _, [] => True
  | x, w :: ws => w.Fits x ∧ Fit (x.through w.tokens) ws

theorem fit_append {x : Context} {ws vs : List Word} :
    Fit x (ws ++ vs) ↔ Fit x ws ∧ Fit (x.through (tokens ws)) vs := by
  induction ws generalizing x with
  | nil => simp [Fit]
  | cons w ws ih => simp [Fit, ih, and_assoc]

theorem lexes_text {x : Context} {ws : List Word} (h : Fit x ws) :
    Lexes x (text ws).toList (tokens ws) := by
  induction ws generalizing x with
  | nil => exact Lexes.nil x
  | cons w ws ih =>
    have hword := Word.lexes h.1
    cases ws with
    | nil => simpa [text, Text.join, String.toList_intercalate] using hword
    | cons v ws =>
      have hwords := hword.spaced (show Text.isBlank ' ' by decide) (ih h.2)
      simpa [text, Text.join, String.toList_intercalate, List.intercalate_cons_cons] using hwords

/-- Where a reference may stand these words can be read, and they close what they open. -/
def Balanced (ws : List Word) : Prop :=
  ∀ x : Context, x.compares = false → Fit x ws ∧ (x.through (tokens ws)).depth = x.depth

variable {ws vs : List Word}

theorem balanced_nil : Balanced [] := fun _ _ => ⟨trivial, rfl⟩

theorem balanced_term {t : Term} (h : t.Legible) : Balanced [.term t] := by
  intro x hx
  refine ⟨⟨⟨h, hx⟩, trivial⟩, ?_⟩
  have hname : ∀ i m, Iri.token i ≠ .mark m := nofun
  simp only [tokens_cons, tokens_nil, List.append_nil]
  exact x.depth_through (Term.mark_notMem_tokens hname t (by decide))
    (Term.mark_notMem_tokens hname t (by decide))

theorem balanced_var {name : String} (h : IsVarName name) : Balanced [.var name] := balanced_term h

theorem Balanced.parens (h : Balanced ws) : Balanced (parens ws) := by
  intro x _
  obtain ⟨hfit, hdepth⟩ := h (x.next (.mark .openParen)) rfl
  refine ⟨⟨trivial, fit_append.2 ⟨hfit, trivial, trivial⟩⟩, ?_⟩
  simp only [Words.parens, tokens_cons, tokens_append, tokens_nil, Word.tokens, List.append_nil,
    List.singleton_append, Context.through_cons, Context.through_append, Context.through_nil]
  show ((x.next (.mark .openParen)).through (tokens ws)).depth - 1 = x.depth
  rw [hdepth]
  rfl

theorem Balanced.between (h₁ : Balanced ws) {m : Mark} (ho : m ≠ .openParen) (hc : m ≠ .closeParen)
    (h₂ : Balanced vs) : Balanced (ws ++ .mark m :: vs) := by
  intro x hx
  obtain ⟨hfit₁, hdepth₁⟩ := h₁ x hx
  have hm : ((x.through (tokens ws)).next (.mark m)).afterValue = false := by
    cases m <;> first | rfl | exact absurd rfl hc
  obtain ⟨hfit₂, hdepth₂⟩ := h₂ _ (Context.compares_of_afterValue hm)
  refine ⟨fit_append.2 ⟨hfit₁, trivial, hfit₂⟩, ?_⟩
  simp only [tokens_append, tokens_cons, Word.tokens, Context.through_append, Context.through_cons,
    Context.through_nil]
  rw [hdepth₂, Context.depth_next _ (by simpa using ho) (by simpa using hc), hdepth₁]

theorem Balanced.mark (h : Balanced ws) {m : Mark} (ho : m ≠ .openParen) (hc : m ≠ .closeParen) :
    Balanced (.mark m :: ws) :=
  balanced_nil.between ho hc h

theorem Balanced.name (h : Balanced (Words.parens ws)) {text : String}
    (ht : Scanner.isBareWord text.toList) : Balanced (.name text :: Words.parens ws) := by
  intro x _
  obtain ⟨hfit, hdepth⟩ := h (x.next (.word text)) (Context.compares_of_afterValue rfl)
  refine ⟨⟨ht, hfit⟩, ?_⟩
  simp only [tokens_cons, Word.tokens, Context.through_append, Context.through_cons,
    Context.through_nil]
  exact hdepth

end Words

open Words

namespace Expression

theorem balanced_enclose {e : Expression} {ws : List Word} (h : Balanced ws) : Balanced (e.enclose ws) := by
  unfold enclose
  split
  · exact h.parens
  · exact h

theorem balanced_pair {a b : List Word} (ha : Balanced a) (hb : Balanced b) :
    Balanced (parens (a ++ .mark .comma :: b)) :=
  (ha.between (by decide) (by decide) hb).parens

theorem balanced_words {e : Expression} (h : e.Grammatical) (hs : ∀ t ∈ e.terms, t.Spellable) :
    Balanced e.words := by
  induction e with
  | var name => exact balanced_var h
  | const t =>
    have hnamed : t.Named := by
      cases t with
      | var name => cases h
      | iri i => trivial
      | literal l => trivial
    exact balanced_term (Term.legible_of_spellable hnamed (hs t (by simp [terms])))
  | bound name => exact (balanced_var h).parens.name (by decide)
  | not e ih => exact (balanced_enclose (ih h hs)).mark (by decide) (by decide)
  | and a b iha ihb =>
    obtain ⟨hsa, hsb⟩ := List.forall_mem_append.1 hs
    exact (balanced_enclose (iha h.1 hsa)).between (by decide) (by decide) (balanced_enclose (ihb h.2 hsb))
  | or a b iha ihb =>
    obtain ⟨hsa, hsb⟩ := List.forall_mem_append.1 hs
    exact (balanced_enclose (iha h.1 hsa)).between (by decide) (by decide) (balanced_enclose (ihb h.2 hsb))
  | compare op a b iha ihb =>
    obtain ⟨hsa, hsb⟩ := List.forall_mem_append.1 hs
    have ho : op.mark ≠ .openParen := by cases op <;> decide
    have hc : op.mark ≠ .closeParen := by cases op <;> decide
    exact (balanced_enclose (iha h.1 hsa)).between ho hc (balanced_enclose (ihb h.2 hsb))
  | regex e p ih =>
    have hstring : ∀ value, Balanced [.string value] := fun value => balanced_term (t := .literal _) trivial
    refine (Balanced.parens ((ih h.1 hs).between (by decide) (by decide) ?_)).name (by decide)
    split
    · exact hstring p.pattern
    · exact (hstring p.pattern).between (by decide) (by decide) (hstring p.flags)
  | contains a b iha ihb =>
    obtain ⟨hsa, hsb⟩ := List.forall_mem_append.1 hs
    exact (balanced_pair (iha h.1 hsa) (ihb h.2 hsb)).name (by decide)
  | strStarts a b iha ihb =>
    obtain ⟨hsa, hsb⟩ := List.forall_mem_append.1 hs
    exact (balanced_pair (iha h.1 hsa) (ihb h.2 hsb)).name (by decide)
  | strEnds a b iha ihb =>
    obtain ⟨hsa, hsb⟩ := List.forall_mem_append.1 hs
    exact (balanced_pair (iha h.1 hsa) (ihb h.2 hsb)).name (by decide)
  | str e ih => exact (ih h hs).parens.name (by decide)
  | lang e ih => exact (ih h hs).parens.name (by decide)
  | isIri e ih => exact (ih h hs).parens.name (by decide)
  | isLiteral e ih => exact (ih h hs).parens.name (by decide)

end Expression

namespace Words

/-- Outside parentheses these words can be read, and they open none that they do not close. -/
def Outside (ws : List Word) : Prop :=
  ∀ x : Context, x.depth = 0 → Fit x ws ∧ (x.through (tokens ws)).depth = 0

variable {ws vs : List Word} {α : Type}

theorem Balanced.outside (h : Balanced ws) : Outside ws := by
  intro x hx
  obtain ⟨hfit, hdepth⟩ := h x (Context.compares_of_depth hx)
  exact ⟨hfit, hdepth.trans hx⟩

theorem outside_nil : Outside [] := fun _ hx => ⟨trivial, hx⟩

theorem Outside.append (h₁ : Outside ws) (h₂ : Outside vs) : Outside (ws ++ vs) := by
  intro x hx
  obtain ⟨hfit₁, hx₁⟩ := h₁ x hx
  obtain ⟨hfit₂, hx₂⟩ := h₂ _ hx₁
  refine ⟨fit_append.2 ⟨hfit₁, hfit₂⟩, ?_⟩
  rwa [tokens_append, Context.through_append]

theorem outside_flatMap {as : List α} {f : α → List Word} (h : ∀ a ∈ as, Outside (f a)) :
    Outside (as.flatMap f) := by
  induction as with
  | nil => exact outside_nil
  | cons a as ih =>
    obtain ⟨ha, has⟩ := List.forall_mem_cons.1 h
    exact ha.append (ih has)

theorem outside_map {as : List α} {f : α → Word} (h : ∀ a ∈ as, Outside [f a]) :
    Outside (as.map f) := by
  rw [List.map_eq_flatMap]
  exact outside_flatMap h

theorem outside_name {text : String} (h : Scanner.isBareWord text.toList) :
    Outside [.name text] :=
  fun _ hx => ⟨⟨h, trivial⟩, hx⟩

theorem outside_count (n : Nat) : Outside [.count n] := fun _ hx => ⟨⟨trivial, trivial⟩, hx⟩

theorem outside_mark {m : Mark} (ho : m ≠ .openParen) (hc : m ≠ .closeParen) :
    Outside [.mark m] :=
  (balanced_nil.mark ho hc).outside

theorem Outside.braces (h : Outside ws) : Outside (braces ws) :=
  (outside_mark (m := .openBrace) (by decide) (by decide)).append
    (h.append (outside_mark (by decide) (by decide)))

theorem outside_term {t : Term} (hn : t.Named) (hs : t.Spellable) : Outside [.term t] :=
  (balanced_term (Term.legible_of_spellable hn hs)).outside

end Words

theorem TriplePattern.outside_words {p : TriplePattern} (h : p.Grammatical)
    (hs : ∀ t ∈ p.terms, t.Spellable) : Outside p.words := by
  have hterm : ∀ t ∈ p.terms, Outside [.term t] := fun t ht => outside_term (h.named t ht) (hs t ht)
  exact (hterm p.subject (by simp [terms])).append ((hterm p.predicate (by simp [terms])).append
    ((hterm p.object (by simp [terms])).append (outside_mark (by decide) (by decide))))

theorem outside_filterWords {e : Expression} (h : e.Grammatical)
    (hs : ∀ t ∈ e.terms, t.Spellable) : Outside (filterWords e) :=
  (outside_name (by decide)).append (Expression.balanced_words h hs).parens.outside

theorem outside_patterns {ps : List TriplePattern} (h : ∀ p ∈ ps, p.Grammatical)
    (hs : ∀ t ∈ ps.flatMap TriplePattern.terms, t.Spellable) :
    Outside (ps.flatMap TriplePattern.words) :=
  outside_flatMap fun p hp => TriplePattern.outside_words (h p hp) fun t ht =>
    hs t (List.mem_flatMap.2 ⟨p, hp, ht⟩)

theorem outside_filters {es : List Expression} (h : ∀ e ∈ es, e.Grammatical)
    (hs : ∀ t ∈ es.flatMap Expression.terms, t.Spellable) :
    Outside (es.flatMap filterWords) :=
  outside_flatMap fun e he => outside_filterWords (h e he) fun t ht =>
    hs t (List.mem_flatMap.2 ⟨e, he, ht⟩)

theorem Block.outside_words {b : Block} (h : b.Grammatical) (hs : ∀ t ∈ b.terms, t.Spellable) :
    Outside b.words := by
  obtain ⟨hrequired, hfilters⟩ := List.forall_mem_append.1 hs
  exact (outside_name (by decide)).append ((outside_patterns h.required hrequired).append
    (outside_filters h.filters hfilters)).braces

theorem Group.outside_words {g : Group} (h : g.Grammatical) (hs : ∀ t ∈ g.terms, t.Spellable) :
    Outside g.words := by
  obtain ⟨hs, hfilters⟩ := List.forall_mem_append.1 hs
  obtain ⟨hrequired, hoptionals⟩ := List.forall_mem_append.1 hs
  have hblocks : Outside (g.optionals.flatMap Block.words) :=
    outside_flatMap fun b hb => Block.outside_words (h.optionals b hb) fun t ht =>
      hoptionals t (List.mem_flatMap.2 ⟨b, hb, ht⟩)
  exact ((outside_patterns h.required hrequired).append
    (hblocks.append (outside_filters h.filters hfilters))).braces

theorem QueryForm.outside_words {f : QueryForm} (h : f.Grammatical)
    (hs : ∀ t ∈ f.terms, t.Spellable) (distinct : Bool) : Outside (f.words distinct) := by
  have hstar : Outside [.mark .star] := outside_mark (by decide) (by decide)
  cases f with
  | select p =>
    have hdistinct : Outside (if distinct then [.name "DISTINCT"] else []) := by
      split
      · exact outside_name (by decide)
      · exact outside_nil
    have hprojection : Outside p.words := by
      cases p with
      | all => exact hstar
      | vars names => exact outside_map fun name hname => (balanced_var (h.2.2 name hname)).outside
    exact (outside_name (by decide)).append (hdistinct.append hprojection)
  | construct template =>
    exact (outside_name (by decide)).append (outside_patterns h hs).braces
  | ask => exact outside_name (by decide)
  | describe resources =>
    refine (outside_name (by decide)).append ?_
    cases resources with
    | nil => exact hstar
    | cons r rs => exact outside_map fun t ht => outside_term (h t ht).2 (hs t ht)

theorem OrderKey.outside_words {k : OrderKey} (h : IsVarName k.var) : Outside k.words := by
  have hname : Outside [.name (if k.ascending then "ASC" else "DESC")] := by
    split
    · exact outside_name (by decide)
    · exact outside_name (by decide)
  exact hname.append (balanced_var h).parens.outside

theorem outside_orderWords {keys : List OrderKey} (h : ∀ k ∈ keys, IsVarName k.var) :
    Outside (orderWords keys) := by
  cases keys with
  | nil => exact outside_nil
  | cons k keys =>
    exact (outside_name (by decide)).append ((outside_name (by decide)).append
      (outside_flatMap fun k hk => OrderKey.outside_words (h k hk)))

theorem Modifiers.outside_words {m : Modifiers} (h : ∀ k ∈ m.orderBy, IsVarName k.var) :
    Outside m.words :=
  (outside_orderWords h).append ((outside_name (by decide)).append
    ((outside_count _).append ((outside_name (by decide)).append (outside_count _))))

theorem Query.outside_words {q : Query} (h : q.Grammatical) (hs : ∀ t ∈ q.terms, t.Spellable) :
    Outside q.words := by
  obtain ⟨hform, hgroup⟩ := List.forall_mem_append.1 hs
  exact (QueryForm.outside_words h.form hform _).append ((outside_name (by decide)).append
    ((Group.outside_words h.group hgroup).append (Modifiers.outside_words h.orderBy)))

theorem Query.tokenize_text {q : Query} (h : q.Grammatical) (hs : ∀ t ∈ q.terms, t.Spellable) :
    ∃ ls, tokenize q.text.toList = .ok ls ∧ ls.map Located.token = tokens q.words :=
  tokenize_of_lexes (lexes_text (outside_words h hs .start rfl).1)

end LinkedRaces
