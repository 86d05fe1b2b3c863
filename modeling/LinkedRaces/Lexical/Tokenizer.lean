import LinkedRaces.Lexical.Scanner

/-! All tokens of a text. Each takes at least one character, so the text runs out. -/

namespace LinkedRaces

namespace Scanner

theorem length_dottedRun_le (p : Char → Bool) (cs : List Char) :
    (dottedRun p cs).length ≤ cs.length := by
  have h₁ := (List.dropWhile_suffix (· == '.') (l := (cs.takeWhile p).reverse)).length_le
  have h₂ := (List.takeWhile_prefix p (l := cs)).length_le
  simp only [dottedRun, List.length_reverse] at *
  omega

theorem dropWhile_concat_ne_nil {p : Char → Bool} {c : Char} (hc : p c = false) (l : List Char) :
    (l ++ [c]).dropWhile p ≠ [] := by
  induction l with
  | nil => simp [hc]
  | cons d l ih => by_cases h : p d <;> simp_all

theorem dottedRun_cons_ne_nil {p : Char → Bool} {c : Char} (cs : List Char) (hp : p c)
    (hc : c ≠ '.') : dottedRun p (c :: cs) ≠ [] := by
  simp only [dottedRun, List.takeWhile_cons, hp, if_true, List.reverse_cons]
  exact fun h => dropWhile_concat_ne_nil (by simpa using hc) _ (List.reverse_eq_nil_iff.1 h)

theorem length_word_lt {c : Char} (rest : List Char) (h : c = ':' ∨ Text.isAlphabetic c) :
    (word (c :: rest)).2.length ≤ rest.length := by
  have hrun : (afterRun isWordChar (c :: rest)).length ≤ rest.length ∨
      afterRun isWordChar (c :: rest) = ':' :: rest := by
    rcases h with rfl | h
    · exact .inr (by simp [afterRun, dottedRun, show isWordChar ':' = false by decide])
    · refine .inl ?_
      have hne := dottedRun_cons_ne_nil (p := isWordChar) (c := c) rest
        (by simp [isWordChar, isNameChar, Text.isAlphanumeric, h])
        (by rintro rfl; exact absurd h (by decide))
      have := List.length_pos_iff.2 hne
      simp only [afterRun, List.length_drop, List.length_cons]
      omega
  unfold word
  split
  next rest' heq =>
    have := length_dottedRun_le isLocalChar rest'
    rcases hrun with hrun | hrun <;> grind [afterRun]
  next hne =>
    rcases hrun with hrun | hrun
    · exact hrun
    · exact absurd hrun (hne rest)

theorem length_number_le (sign cs : List Char) : (number sign cs).2.length ≤ cs.length := by
  have := (List.dropWhile_suffix Char.isDigit (l := cs)).length_le
  simp only [number, List.length_drop]
  omega

theorem length_number_lt (sign : List Char) {c : Char} (rest : List Char)
    (h : c.isDigit ∨ (c = '.' ∧ beginsWithDigit rest)) :
    (number sign (c :: rest)).2.length ≤ rest.length := by
  simp only [number, List.length_drop]
  rcases h with h | ⟨rfl, h⟩
  · have := (List.dropWhile_suffix Char.isDigit (l := rest)).length_le
    simp only [List.dropWhile_cons, h, if_true]
    omega
  · cases rest with
    | nil => simp [beginsWithDigit] at h
    | cons d rest =>
      simp only [beginsWithDigit] at h
      simp [show Char.isDigit '.' = false by decide, fraction, h]
      omega

theorem length_reference?_lt {cs body rest : List Char} (h : reference? cs = some (body, rest)) :
    rest.length < cs.length := by
  fun_induction reference? cs generalizing body with
  | case1 => simp at h
  | case2 => simp_all
  | case3 => simp at h
  | case4 c cs _ _ ih =>
    obtain ⟨⟨b, r⟩, hr, heq⟩ := Option.map_eq_some_iff.1 h
    simp only [Prod.mk.injEq] at heq
    obtain ⟨-, rfl⟩ := heq
    have := ih hr
    simp only [List.length_cons]
    omega

theorem length_either_le (second : Char) (long short : Mark) (rest : List Char) :
    (either second long short rest).2.length ≤ rest.length := by
  cases rest with
  | nil => simp [either]
  | cons c rest => by_cases h : c = second <;> simp [either, h]

theorem bind_eq_ok {ε α β : Type} {x : Except ε α} {f : α → Except ε β} {b : β} :
    (x >>= f) = .ok b ↔ ∃ a, x = .ok a ∧ f a = .ok b := by
  cases x <;> simp [bind, Except.bind]

theorem length_shortString_lt {quote : Char} {cs body rest : List Char}
    (h : shortString quote cs = .ok (body, rest)) : rest.length < cs.length := by
  fun_induction shortString quote cs generalizing body with
  | case1 => simp at h
  | case2 => simp_all
  | case3 => simp at h
  | case4 cs _ _ ih =>
    simp only [bind_eq_ok] at h
    obtain ⟨⟨e, r, hr⟩, -, ⟨b, r'⟩, hb, heq⟩ := h
    simp only [Except.ok.injEq, Prod.mk.injEq] at heq
    obtain ⟨-, rfl⟩ := heq
    have := ih r hr hb
    simp only [List.length_cons]
    omega
  | case5 c cs _ _ _ ih =>
    simp only [bind_eq_ok] at h
    obtain ⟨⟨b, r'⟩, hb, heq⟩ := h
    simp only [Except.ok.injEq, Prod.mk.injEq] at heq
    obtain ⟨-, rfl⟩ := heq
    have := ih hb
    simp only [List.length_cons]
    omega

theorem length_longString_lt {quote : Char} {cs body rest : List Char}
    (h : longString quote cs = .ok (body, rest)) : rest.length < cs.length := by
  fun_induction longString quote cs generalizing body with
  | case1 => simp at h
  | case2 c cs hq =>
    simp only [Except.ok.injEq, Prod.mk.injEq] at h
    simp only [← h.2, List.length_drop, List.length_cons]
    omega
  | case3 cs _ ih =>
    simp only [bind_eq_ok] at h
    obtain ⟨⟨e, r, hr⟩, -, ⟨b, r'⟩, hb, heq⟩ := h
    simp only [Except.ok.injEq, Prod.mk.injEq] at heq
    obtain ⟨-, rfl⟩ := heq
    have := ih r hr hb
    simp only [List.length_cons]
    omega
  | case4 c cs _ _ ih =>
    simp only [bind_eq_ok] at h
    obtain ⟨⟨b, r'⟩, hb, heq⟩ := h
    simp only [Except.ok.injEq, Prod.mk.injEq] at heq
    obtain ⟨-, rfl⟩ := heq
    have := ih hb
    simp only [List.length_cons]
    omega

theorem length_string_le {quote : Char} {cs rest : List Char} {t : Token}
    (h : string quote cs = .ok (t, rest)) : rest.length ≤ cs.length := by
  simp only [string, bind_eq_ok] at h
  obtain ⟨⟨body, r⟩, hr, heq⟩ := h
  simp only [Except.ok.injEq, Prod.mk.injEq] at heq
  obtain ⟨-, rfl⟩ := heq
  unfold stringBody at hr
  split at hr
  · have := length_longString_lt hr
    simp only [List.length_drop] at this
    omega
  · exact Nat.le_of_lt (length_shortString_lt hr)

def Start.Begins : Start → Char → Prop
  | angle, c => c = '<'
  | quote, c => c = '"' ∨ c = '\''
  | sigil, c => c = '?' ∨ c = '$'
  | .at, c => c = '@'
  | underscore, c => c = '_'
  | digit, c => c.isDigit
  | sign, c => c = '+' ∨ c = '-'
  | dot, c => c = '.'
  | caret, c => c = '^'
  | bang, c => c = '!'
  | greater, c => c = '>'
  | ampersand, c => c = '&'
  | bar, c => c = '|'
  | mark m, c => m.text.toList = [c]
  | word, c => c = ':' ∨ Text.isAlphabetic c
  | other, _ => True

theorem begins_start (c : Char) : (start c).Begins c := by
  unfold start
  split
  next h => exact h
  next =>
    split
    next h => exact h
    next =>
      split
      next m hm =>
        unfold startOfMark at hm
        split at hm <;> cases hm <;> rfl
      next =>
        unfold startOfOther
        split <;> simp [Start.Begins]

theorem begins_of_start {c : Char} {k : Start} (h : start c = k) : k.Begins c := h ▸ begins_start c

theorem length_tokenAfter_le {comparing afterValue : Bool} {c : Char} {rest rest' : List Char}
    {t : Token} (h : tokenAfter comparing afterValue c rest = .ok (t, rest')) :
    rest'.length ≤ rest.length := by
  have either_le (second long short) : either second long short rest = (t, rest') →
      rest'.length ≤ rest.length := fun h => by
    have := length_either_le second long short rest
    simp_all
  have drop_le (p : Char → Bool) (l : List Char) := (List.dropWhile_suffix p (l := l)).length_le
  unfold tokenAfter at h
  split at h
  next =>
    split at h
    next body r hr =>
      split at hr
      · simp at hr
      · simp only [Except.ok.injEq, Prod.mk.injEq] at h
        exact h.2 ▸ Nat.le_of_lt (length_reference?_lt hr)
    next => exact either_le _ _ _ (Except.ok.inj h)
  next => exact length_string_le h
  next => grind
  next => grind
  next => grind
  next hs =>
    have := length_number_lt [] rest (.inl (begins_of_start hs))
    simp_all
  next =>
    have := length_number_le [c] rest
    grind
  next hs =>
    obtain rfl : c = '.' := begins_of_start hs
    split at h
    next hd =>
      have := length_number_lt [] rest (.inr ⟨rfl, hd⟩)
      simp_all
    next => simp_all
  next => exact either_le _ _ _ (Except.ok.inj h)
  next => exact either_le _ _ _ (Except.ok.inj h)
  next => exact either_le _ _ _ (Except.ok.inj h)
  next => grind
  next => exact either_le _ _ _ (Except.ok.inj h)
  next => simp_all
  next hs =>
    have := length_word_lt rest (begins_of_start hs)
    simp_all
  next => simp at h

end Scanner

structure LexicalError where
  fault : LexicalFault
  text : List Char
deriving DecidableEq, Repr

namespace Tokenizer

def depthAfter (depth : Nat) : Token → Nat
  | .mark .openParen => depth + 1
  | .mark .closeParen => depth - 1
  | _ => depth

/-- The tokens of what is left, `depth` parentheses being open. -/
def tokensFrom (depth : Nat) (afterValue : Bool) (cs : List Char) :
    Except LexicalError (List Located) :=
  match hs : Scanner.skipBlanks cs with
  | [] => .ok []
  | c :: rest =>
    match h : Scanner.tokenAfter (decide (0 < depth) && afterValue) afterValue c rest with
    | .error fault => .error ⟨fault, c :: rest⟩
    | .ok (token, rest') =>
      have : rest'.length < cs.length := by
        have h₁ := Scanner.length_skipBlanks_le cs
        have h₂ := Scanner.length_tokenAfter_le h
        simp only [hs, List.length_cons] at h₁
        omega
      match tokensFrom (depthAfter depth token) token.endsValue rest' with
      | .error e => .error e
      | .ok tokens => .ok (⟨token, c :: rest⟩ :: tokens)
termination_by cs.length

end Tokenizer

def tokenize (text : List Char) : Except LexicalError (List Located) :=
  Tokenizer.tokensFrom 0 false text

end LinkedRaces
