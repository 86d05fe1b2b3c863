import LinkedRaces.Lexical.Tokenizer
import LinkedRaces.Proofs.Lexical.Scanning

/-!
Written text, token by token. `Lexes x cs ts` says that after the context `x` the text `cs` is read
as the tokens `ts`, whatever follows behind a blank. Texts with a blank between them are read one
after the other.

A token carries the text from its first character on, and this tells where it stands: no two tokens
of a text have the same place.
-/

namespace LinkedRaces

/-- What the tokenizer keeps of the tokens before. -/
structure Context where
  depth : Nat
  afterValue : Bool
deriving DecidableEq

namespace Context

def start : Context := ⟨0, false⟩

def next (x : Context) (t : Token) : Context := ⟨Tokenizer.depthAfter x.depth t, t.endsValue⟩

def through (x : Context) (ts : List Token) : Context := ts.foldl next x

def compares (x : Context) : Bool := decide (0 < x.depth) && x.afterValue

@[simp] theorem through_nil (x : Context) : x.through [] = x := rfl

@[simp] theorem through_cons (x : Context) (t : Token) (ts : List Token) :
    x.through (t :: ts) = (x.next t).through ts := rfl

@[simp] theorem through_append (x : Context) (ts us : List Token) :
    x.through (ts ++ us) = (x.through ts).through us :=
  List.foldl_append

theorem compares_of_depth {x : Context} (h : x.depth = 0) : x.compares = false := by
  simp [compares, h]

theorem compares_of_afterValue {x : Context} (h : x.afterValue = false) : x.compares = false := by
  simp [compares, h]

theorem depth_next (x : Context) {t : Token} (ho : t ≠ .mark .openParen)
    (hc : t ≠ .mark .closeParen) : (x.next t).depth = x.depth := by
  unfold next Tokenizer.depthAfter
  split <;> simp_all

theorem depth_through (x : Context) {ts : List Token} (ho : .mark .openParen ∉ ts)
    (hc : .mark .closeParen ∉ ts) : (x.through ts).depth = x.depth := by
  induction ts generalizing x with
  | nil => rfl
  | cons t ts ih =>
    simp only [List.mem_cons, not_or] at ho hc
    rw [through_cons, ih (x.next t) ho.2 hc.2, depth_next x (Ne.symm ho.1) (Ne.symm hc.1)]

end Context

namespace Tokenizer

open Scanner (skipBlanks tokenAfter)

theorem tokensFrom_of_skipBlanks_nil {cs : List Char} (h : skipBlanks cs = []) (depth : Nat)
    (afterValue : Bool) : tokensFrom depth afterValue cs = .ok [] := by
  rw [tokensFrom]
  split
  next => rfl
  next heq => simp [h] at heq

theorem tokensFrom_of_skipBlanks_cons {c : Char} {cs rest : List Char}
    (h : skipBlanks cs = c :: rest) (depth : Nat) (afterValue : Bool) :
    tokensFrom depth afterValue cs =
      match tokenAfter (decide (0 < depth) && afterValue) afterValue c rest with
      | .error fault => .error ⟨fault, c :: rest⟩
      | .ok (t, rest') =>
        (tokensFrom (depthAfter depth t) t.endsValue rest').map (⟨t, c :: rest⟩ :: ·) := by
  rw [tokensFrom]
  split
  next heq => simp [h] at heq
  next d ds heq =>
    obtain ⟨rfl, rfl⟩ : c = d ∧ rest = ds := by simpa [h] using heq
    split
    next ht => simp only [ht]
    next t rest' ht =>
      simp only [ht]
      cases tokensFrom (depthAfter depth t) t.endsValue rest' <;> rfl

theorem tokensFrom_congr {cs ds : List Char} {depth : Nat} {afterValue : Bool}
    (h : skipBlanks cs = skipBlanks ds) :
    tokensFrom depth afterValue cs = tokensFrom depth afterValue ds := by
  cases hs : skipBlanks ds with
  | nil => rw [tokensFrom_of_skipBlanks_nil (h.trans hs), tokensFrom_of_skipBlanks_nil hs]
  | cons c rest =>
    rw [tokensFrom_of_skipBlanks_cons (h.trans hs), tokensFrom_of_skipBlanks_cons hs]

def kinds (x : Context) (cs : List Char) : Except LexicalError (List Token) :=
  (tokensFrom x.depth x.afterValue cs).map (List.map Located.token)

theorem kinds_nil (x : Context) : kinds x [] = .ok [] := by
  rw [kinds, tokensFrom_of_skipBlanks_nil rfl]
  rfl

theorem kinds_congr {x : Context} {cs ds : List Char} (h : skipBlanks cs = skipBlanks ds) :
    kinds x cs = kinds x ds := by
  rw [kinds, kinds, tokensFrom_congr h]

theorem kinds_blank {c : Char} (hc : Text.isBlank c) (x : Context) (cs : List Char) :
    kinds x (c :: cs) = kinds x cs :=
  kinds_congr (by simp [skipBlanks, Scanner.skipFrom, hc])

end Tokenizer

namespace Scanner

theorem start_of_isBlank {c : Char} (h : Text.isBlank c) : start c = .other :=
  Text.forall_inRanges (P := fun c => start c = .other) (by decide +kernel) h

theorem skipBlanks_of_start {c : Char} (h : start c ≠ .other) (rest : List Char) :
    skipBlanks (c :: rest) = c :: rest := by
  have hblank : Text.isBlank c = false := by
    cases hb : Text.isBlank c with
    | false => rfl
    | true => exact absurd (start_of_isBlank hb) h
  have hhash : c ≠ '#' := by rintro rfl; exact h (by decide)
  simp [skipBlanks, skipFrom, hblank, hhash]

theorem start_of_tokenAfter {comparing afterValue : Bool} {c : Char} {rest rest' : List Char}
    {t : Token} (h : tokenAfter comparing afterValue c rest = .ok (t, rest')) :
    start c ≠ .other := by
  intro hc
  simp [tokenAfter, hc] at h

end Scanner

namespace Tokenizer

theorem kinds_cons {x : Context} {c : Char} {rest rest' : List Char} {t : Token}
    (h : Scanner.tokenAfter x.compares x.afterValue c rest = .ok (t, rest')) :
    kinds x (c :: rest) = (kinds (x.next t) rest').map (t :: ·) := by
  have hs := Scanner.skipBlanks_of_start (Scanner.start_of_tokenAfter h) rest
  simp only [Context.compares] at h
  rw [kinds, tokensFrom_of_skipBlanks_cons hs, h]
  simp only [kinds, Context.next]
  cases tokensFrom (depthAfter x.depth t) t.endsValue rest' <;> rfl

end Tokenizer

/-- After `x`, the text is read as these tokens if a blank or nothing follows it. -/
def Lexes (x : Context) (cs : List Char) (ts : List Token) : Prop :=
  ∀ rest, Separated rest →
    Tokenizer.kinds x (cs ++ rest) = (Tokenizer.kinds (x.through ts) rest).map (ts ++ ·)

namespace Lexes

open Tokenizer (kinds kinds_blank kinds_cons kinds_nil)

variable {x : Context} {cs ds : List Char} {ts us : List Token}

theorem nil (x : Context) : Lexes x [] [] := by
  intro rest _
  simp only [List.nil_append, Context.through_nil]
  cases kinds x rest <;> rfl

theorem append (h₁ : Lexes x cs ts) (h₂ : Lexes (x.through ts) ds us) (hd : Separated ds) :
    Lexes x (cs ++ ds) (ts ++ us) := by
  intro rest hr
  have hsep : Separated (ds ++ rest) := by
    cases ds with
    | nil => exact hr
    | cons d ds => simpa [Separated] using hd
  rw [List.append_assoc, h₁ _ hsep, h₂ _ hr, Context.through_append]
  cases kinds ((x.through ts).through us) rest <;> simp [Except.map]

theorem blank {c : Char} (hc : Text.isBlank c) (h : Lexes x cs ts) : Lexes x (c :: cs) ts := by
  intro rest hr
  rw [List.cons_append, kinds_blank hc, h rest hr]

theorem spaced {c : Char} (h₁ : Lexes x cs ts) (hc : Text.isBlank c)
    (h₂ : Lexes (x.through ts) ds us) : Lexes x (cs ++ c :: ds) (ts ++ us) :=
  h₁.append (h₂.blank hc) (separated_cons hc ds)

theorem kinds_eq (h : Lexes x cs ts) : kinds x cs = .ok ts := by
  have := h [] separated_nil
  rw [List.append_nil, kinds_nil] at this
  simpa [Except.map] using this

theorem single (c : Char) (cs : List Char) {t : Token}
    (h : ∀ rest, Separated rest →
      Scanner.tokenAfter x.compares x.afterValue c (cs ++ rest) = .ok (t, rest)) :
    Lexes x (c :: cs) [t] := by
  intro rest hr
  rw [List.cons_append, kinds_cons (h rest hr)]
  rfl

end Lexes

theorem Tokenizer.kinds_start_eq_ok {cs : List Char} {ts : List Token} :
    kinds .start cs = .ok ts ↔ ∃ ls, tokenize cs = .ok ls ∧ ls.map Located.token = ts := by
  change Except.map _ (tokenize cs) = _ ↔ _
  cases tokenize cs with
  | error e => simp [Except.map]
  | ok ls => simp [Except.map]

theorem tokenize_of_lexes {cs : List Char} {ts : List Token} (h : Lexes .start cs ts) :
    ∃ ls, tokenize cs = .ok ls ∧ ls.map Located.token = ts :=
  Tokenizer.kinds_start_eq_ok.1 h.kinds_eq

theorem tokenize_of_tokenAfter {c : Char} {cs : List Char} {t : Token}
    (h : Scanner.tokenAfter false false c cs = .ok (t, [])) :
    tokenize (c :: cs) = .ok [⟨t, c :: cs⟩] := by
  have hstart := Scanner.skipBlanks_of_start (Scanner.start_of_tokenAfter h) cs
  have htoken : Scanner.tokenAfter (decide (0 < 0) && false) false c cs = .ok (t, []) := h
  rw [tokenize, Tokenizer.tokensFrom_of_skipBlanks_cons hstart, htoken]
  simp only [Tokenizer.tokensFrom_of_skipBlanks_nil (show Scanner.skipBlanks [] = [] from rfl)]
  rfl

namespace Tokenizer

theorem pairwise_tokensFrom {cs : List Char} {depth : Nat} {afterValue : Bool} {ts : List Located}
    (h : tokensFrom depth afterValue cs = .ok ts) :
    ts.Pairwise (fun x y => y.text.length < x.text.length) ∧
      ∀ x ∈ ts, 0 < x.text.length ∧ x.text.length ≤ cs.length := by
  have hblanks := Scanner.length_skipBlanks_le cs
  cases hs : Scanner.skipBlanks cs with
  | nil =>
    rw [tokensFrom_of_skipBlanks_nil hs] at h
    cases h
    exact ⟨.nil, nofun⟩
  | cons c rest =>
    rw [tokensFrom_of_skipBlanks_cons hs] at h
    rw [hs, List.length_cons] at hblanks
    split at h
    next => cases h
    next t rest' ht =>
      have hrest := Scanner.length_tokenAfter_le ht
      have hlt : rest'.length < cs.length := by omega
      cases hmore : tokensFrom (depthAfter depth t) t.endsValue rest' with
      | error e =>
        rw [hmore] at h
        cases h
      | ok us =>
        rw [hmore] at h
        cases h
        obtain ⟨hpairwise, hbounds⟩ := pairwise_tokensFrom hmore
        refine ⟨List.pairwise_cons.2 ⟨fun x hx => ?_, hpairwise⟩, fun x hx => ?_⟩
        · have := (hbounds x hx).2
          simp only [List.length_cons]
          omega
        · rcases List.mem_cons.1 hx with rfl | hx
          · simp only [List.length_cons]
            omega
          · have := hbounds x hx
            omega
termination_by cs.length

end Tokenizer

theorem textFrom_drop_injective {text : List Char} {ts : List Located} (h : tokenize text = .ok ts)
    {j k : Nat} (hj : j ≤ ts.length) (hk : k ≤ ts.length)
    (heq : textFrom (ts.drop j) = textFrom (ts.drop k)) : j = k := by
  obtain ⟨hpairwise, hbounds⟩ := Tokenizer.pairwise_tokensFrom h
  have hlt {j k : Nat} (hjk : j < k) (hk : k ≤ ts.length) :
      (textFrom (ts.drop k)).length < (textFrom (ts.drop j)).length := by
    have hj : j < ts.length := by omega
    rw [List.drop_eq_getElem_cons hj]
    rcases Nat.lt_or_eq_of_le hk with hk | rfl
    · rw [List.drop_eq_getElem_cons hk]
      exact List.pairwise_iff_getElem.1 hpairwise j k hj hk hjk
    · rw [List.drop_length]
      exact (hbounds _ (List.getElem_mem hj)).1
  rcases Nat.lt_trichotomy j k with hjk | hjk | hjk
  · exact absurd (congrArg List.length heq) (Nat.ne_of_gt (hlt hjk hk))
  · exact hjk
  · exact absurd (congrArg List.length heq) (Nat.ne_of_lt (hlt hjk hj))

end LinkedRaces
