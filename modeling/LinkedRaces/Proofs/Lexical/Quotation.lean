import LinkedRaces.Proofs.Lexical.Lexing
import Mathlib.Data.List.Forall2
import Mathlib.Data.Nat.Digits.Defs

/-!
The strings that the tokenizer accepts, against a grammar of quoted strings. The grammar describes
one string from its first quote to its last. It leaves open what the number of an escape may be: the
scanner takes a plus sign for the first digit, and no other liberty.
-/

namespace LinkedRaces

namespace Number

def hexDigits (letters : String) : List Char := ("0123456789" ++ letters).toList

def HexDigit (c : Char) (v : Nat) : Prop :=
  c ∈ (hexDigits "abcdef")[v]? ∨ c ∈ (hexDigits "ABCDEF")[v]?

instance (c : Char) (v : Nat) : Decidable (HexDigit c v) := inferInstanceAs (Decidable (_ ∨ _))

theorem hexDigit_of_range {c : Char} {offset : Nat} (first count : Nat)
    (h : ∀ n ∈ List.range' first count, HexDigit (Char.ofNat n) (n - offset))
    (hfirst : first ≤ c.toNat) (hlast : c.toNat < first + count) :
    HexDigit c (c.toNat - offset) := by
  simpa using h c.toNat (List.mem_range'_1.2 ⟨hfirst, hlast⟩)

theorem hexValue?_eq_some_iff {c : Char} {v : Nat} : hexValue? c = some v ↔ HexDigit c v := by
  constructor
  · intro h
    unfold hexValue? at h
    split at h
    next hd =>
      simp only [Char.isDigit, Bool.and_eq_true, decide_eq_true_eq, UInt32.le_iff_toNat_le] at hd
      cases h
      exact hexDigit_of_range 48 10 (by decide) hd.1 (Nat.lt_succ_of_le hd.2)
    next =>
      split at h
      next hd =>
        cases h
        exact hexDigit_of_range 97 6 (by decide) hd.1
          (Nat.lt_succ_of_le hd.2)
      next =>
        obtain ⟨hd, h⟩ := Option.ite_none_right_eq_some.1 h
        cases h
        exact hexDigit_of_range 65 6 (by decide) hd.1
          (Nat.lt_succ_of_le hd.2)
  · have hsmall : ∀ v < 16, (hexDigits "abcdef")[v]?.bind hexValue? = some v := by decide
    have hcapital : ∀ v < 16, (hexDigits "ABCDEF")[v]?.bind hexValue? = some v := by decide
    have hread {ds : List Char} (hds : ∀ v < 16, ds[v]?.bind hexValue? = some v)
        (hlength : ds.length = 16) (h : c ∈ ds[v]?) : hexValue? c = some v := by
      obtain ⟨hv, -⟩ := List.getElem?_eq_some_iff.1 h
      simpa only [Option.mem_def.1 h, Option.bind_some] using hds v (hlength ▸ hv)
    rintro (h | h)
    · exact hread hsmall rfl h
    · exact hread hcapital rfl h

def Hexadecimal (ds : List Char) (n : Nat) : Prop :=
  ∃ vs, List.Forall₂ HexDigit ds vs ∧ n = Nat.ofDigits 16 vs.reverse

theorem ofDigits_reverse (vs : List Nat) :
    Nat.ofDigits 16 vs.reverse = vs.foldl (fun n v => 16 * n + v) 0 := by
  rw [Nat.ofDigits_eq_foldr, List.foldr_reverse]
  simp [Nat.add_comm]

theorem foldlM_hexValue?_eq_some_iff {ds : List Char} {m n : Nat} :
    ds.foldlM (fun n d => (hexValue? d).map (16 * n + ·)) m = some n ↔
      ∃ vs, List.Forall₂ HexDigit ds vs ∧ n = vs.foldl (fun n v => 16 * n + v) m := by
  induction ds generalizing m with
  | nil => simp [eq_comm]
  | cons d ds ih =>
    simp only [List.foldlM_cons, Option.bind_eq_bind, Option.bind_eq_some_iff,
      Option.map_eq_some_iff, hexValue?_eq_some_iff, List.forall₂_cons_left_iff]
    constructor
    · rintro ⟨_, ⟨v, hv, rfl⟩, h⟩
      obtain ⟨vs, hvs, rfl⟩ := ih.1 h
      exact ⟨v :: vs, ⟨v, vs, hv, hvs, rfl⟩, rfl⟩
    · rintro ⟨_, ⟨v, vs, hv, hvs, rfl⟩, rfl⟩
      exact ⟨_, ⟨v, hv, rfl⟩, ih.2 ⟨vs, hvs, rfl⟩⟩

theorem readHex?_eq_some_iff {ds : List Char} {n : Nat} :
    readHex? ds = some n ↔ ds ≠ [] ∧ Hexadecimal ds n := by
  unfold readHex? Hexadecimal
  simp only [ofDigits_reverse, ← foldlM_hexValue?_eq_some_iff]
  cases ds with
  | nil => simp
  | cons d ds => simp

theorem scalar?_eq_some_iff {n : Nat} {c : Char} : scalar? n = some c ↔ c.toNat = n := by
  unfold scalar?
  rw [Option.ite_none_right_eq_some]
  constructor
  · rintro ⟨hvalid, h⟩
    cases h
    rw [Char.ofNat, dif_pos hvalid]
    rfl
  · rintro rfl
    exact ⟨c.valid, by rw [Char.ofNat_toNat]⟩

end Number

namespace Scanner

open Number (Hexadecimal)

def escapeLetters : List (Char × Char) :=
  [('t', '\t'), ('n', '\n'), ('r', '\r'), ('b', '\x08'), ('f', '\x0c'), ('"', '"'),
    ('\'', '\''), ('\\', '\\')]

section

variable (Numeral : List Char → Nat → Prop)

inductive Escape : List Char → Char → Prop
  | letter {c e : Char} (h : (c, e) ∈ escapeLetters) : Escape [c] e
  | short {ds : List Char} {e : Char} (hlength : ds.length = 4) (h : Numeral ds e.toNat) :
    Escape ('u' :: ds) e
  | long {ds : List Char} {e : Char} (hlength : ds.length = 8) (h : Numeral ds e.toNat) :
    Escape ('U' :: ds) e

/-- What follows the quote of a string on one line, the last quote included, and its value. -/
inductive ShortBody (quote : Char) : List Char → List Char → Prop
  | close : ShortBody quote [quote] []
  | char {c : Char} {body value : List Char} (hquote : c ≠ quote) (hslash : c ≠ '\\')
    (hbreak : c ≠ '\n' ∧ c ≠ '\r') (h : ShortBody quote body value) :
    ShortBody quote (c :: body) (c :: value)
  | escape {escaped : List Char} {e : Char} {body value : List Char} (he : Escape Numeral escaped e)
    (h : ShortBody quote body value) : ShortBody quote ('\\' :: (escaped ++ body)) (e :: value)

/-- What follows the three quotes of a long string, the last three included. No three quotes stand
before those. -/
inductive LongBody (quote : Char) : List Char → List Char → Prop
  | close : LongBody quote [quote, quote, quote] []
  | char {c : Char} {body value : List Char} (hquotes : ¬ [quote, quote, quote] <+: c :: body)
    (hslash : c ≠ '\\') (h : LongBody quote body value) : LongBody quote (c :: body) (c :: value)
  | escape {escaped : List Char} {e : Char} {body value : List Char} (he : Escape Numeral escaped e)
    (h : LongBody quote body value) : LongBody quote ('\\' :: (escaped ++ body)) (e :: value)

inductive Quoted (quote : Char) : List Char → List Char → Prop
  | short {body value : List Char} (h : ShortBody Numeral quote body value) :
    Quoted quote (quote :: body) value
  | long {body value : List Char} (h : LongBody Numeral quote body value) :
    Quoted quote (quote :: quote :: quote :: body) value

/-- At the front of the text stands a string, and `rest` follows it. Two quotes are a string if no
third one follows. -/
def QuotedAt (quote : Char) (text value rest : List Char) : Prop :=
  ∃ lexeme, text = lexeme ++ rest ∧ Quoted Numeral quote lexeme value ∧
    (lexeme = [quote, quote] → rest.head? ≠ some quote)

end

def Signed (ds : List Char) (n : Nat) : Prop :=
  Hexadecimal ds n ∨ ∃ rest, ds = '+' :: rest ∧ Hexadecimal rest n

theorem not_hexDigit_plus (v : Nat) : ¬ Number.HexDigit '+' v := by
  intro h
  have hnone : Number.hexValue? '+' = none := by decide
  rw [← Number.hexValue?_eq_some_iff, hnone] at h
  cases h

theorem not_hexadecimal_plus (ds : List Char) (n : Nat) : ¬ Hexadecimal ('+' :: ds) n := by
  rintro ⟨_, hvs, -⟩
  obtain ⟨v, -, hv, -⟩ := List.forall₂_cons_left_iff.1 hvs
  exact not_hexDigit_plus v hv

theorem hexNumber?_eq_some_iff {ds : List Char} {n : Nat} (hds : 2 ≤ ds.length) :
    hexNumber? ds = some n ↔ Signed ds n := by
  unfold hexNumber? Signed
  split
  next d ds => simp [Number.readHex?_eq_some_iff, not_hexadecimal_plus]
  next hne =>
    have hsigned : ∀ rest, ds ≠ '+' :: rest := by
      rintro rest rfl
      cases rest with
      | nil => simp at hds
      | cons d rest => exact hne d rest rfl
    have hnil : ds ≠ [] := by rintro rfl; simp at hds
    simp [Number.readHex?_eq_some_iff, hsigned, hnil]

theorem numbered_eq_ok_iff {count : Nat} (hcount : 2 ≤ count) {cs : List Char} {e : Char} :
    numbered count cs = .ok e ↔ count ≤ cs.length ∧ Signed (cs.take count) e.toNat := by
  unfold numbered
  split
  next hlt =>
    have hle : ¬ count ≤ cs.length := Nat.not_le_of_lt hlt
    simp [hle]
  next hlt =>
    have hle : count ≤ cs.length := Nat.le_of_not_lt hlt
    have htake : 2 ≤ (cs.take count).length := by
      rw [List.length_take, Nat.min_eq_left hle]
      exact hcount
    have hiff : (hexNumber? (cs.take count)).bind Number.scalar? = some e ↔
        Signed (cs.take count) e.toNat := by
      simp [Option.bind_eq_some_iff, Number.scalar?_eq_some_iff, hexNumber?_eq_some_iff htake]
    rw [← hiff]
    cases hread : (hexNumber? (cs.take count)).bind Number.scalar? with
    | none => simp
    | some c => simp [hle]

theorem escaped?_eq_some_iff {c e : Char} : escaped? c = some e ↔ (c, e) ∈ escapeLetters := by
  unfold escaped? escapeLetters
  split <;> simp_all [eq_comm]

theorem reading_numbered_iff {count bound : Nat} (hcount : 2 ≤ count) {cs rest : List Char}
    {e : Char} (hdrop : (cs.drop count).length < bound) (hrest : rest.length < bound) :
    (numbered count cs).map (fun e => (⟨e, cs.drop count, hdrop⟩ : Reading Char Char bound)) =
        .ok ⟨e, rest, hrest⟩ ↔
      ∃ ds, cs = ds ++ rest ∧ ds.length = count ∧ Signed ds e.toNat := by
  have hiff : (numbered count cs).map
      (fun e => (⟨e, cs.drop count, hdrop⟩ : Reading Char Char bound)) = .ok ⟨e, rest, hrest⟩ ↔
        numbered count cs = .ok e ∧ cs.drop count = rest := by
    cases numbered count cs <;> simp [Except.map]
  rw [hiff, numbered_eq_ok_iff hcount]
  constructor
  · rintro ⟨⟨hle, hsigned⟩, rfl⟩
    exact ⟨cs.take count, (List.take_append_drop count cs).symm,
      by rw [List.length_take, Nat.min_eq_left hle], hsigned⟩
  · rintro ⟨ds, rfl, rfl, hsigned⟩
    rw [List.take_left, List.drop_left, List.length_append]
    exact ⟨⟨Nat.le_add_right _ _, hsigned⟩, rfl⟩

theorem escape_eq_ok_iff {cs rest : List Char} {e : Char} {h : rest.length < cs.length} :
    escape cs = .ok ⟨e, rest, h⟩ ↔ ∃ escaped, cs = escaped ++ rest ∧ Escape Signed escaped e := by
  constructor
  · intro hread
    unfold escape at hread
    split at hread
    next => cases hread
    next c cs =>
      split at hread
      next hu =>
        obtain ⟨ds, rfl, hlength, hsigned⟩ := (reading_numbered_iff (by decide) _ h).1 hread
        exact ⟨'u' :: ds, by rw [hu]; rfl, .short hlength hsigned⟩
      next =>
        split at hread
        next hU =>
          obtain ⟨ds, rfl, hlength, hsigned⟩ := (reading_numbered_iff (by decide) _ h).1 hread
          exact ⟨'U' :: ds, by rw [hU]; rfl, .long hlength hsigned⟩
        next =>
          split at hread
          next e' he =>
            cases hread
            exact ⟨[c], rfl, .letter (escaped?_eq_some_iff.1 he)⟩
          next => cases hread
  · rintro ⟨escaped, rfl, he⟩
    cases he with
    | @letter c _ hmem =>
      have hu : c ≠ 'u' ∧ c ≠ 'U' := by
        constructor <;> (rintro rfl; revert hmem; simp [escapeLetters])
      simp only [List.singleton_append, escape, hu.1, hu.2, if_false,
        escaped?_eq_some_iff.2 hmem]
    | short hlength hsigned =>
      exact (reading_numbered_iff (by decide) _ h).2 ⟨_, rfl, hlength, hsigned⟩
    | long hlength hsigned =>
      exact (reading_numbered_iff (by decide) _ h).2 ⟨_, rfl, hlength, hsigned⟩

def IsQuote (c : Char) : Prop := c = '"' ∨ c = '\''

variable {quote : Char}

theorem IsQuote.ne_slash (h : IsQuote quote) : quote ≠ '\\' := by
  rcases h with rfl | rfl <;> decide

theorem shortBody_of_shortString {cs value rest : List Char}
    (h : shortString quote cs = .ok (value, rest)) :
    ∃ body, cs = body ++ rest ∧ ShortBody Signed quote body value := by
  fun_induction shortString quote cs generalizing value with
  | case1 => cases h
  | case2 rest' =>
    cases h
    exact ⟨[quote], rfl, .close⟩
  | case3 => cases h
  | case4 cs _ _ ih =>
    obtain ⟨⟨e, after, hlt⟩, he, h⟩ := bind_eq_ok.1 h
    obtain ⟨⟨content, rest'⟩, hcontent, h⟩ := bind_eq_ok.1 h
    cases h
    obtain ⟨escaped, rfl, hescape⟩ := escape_eq_ok_iff.1 he
    obtain ⟨body, rfl, hbody⟩ := ih after hlt hcontent
    exact ⟨'\\' :: (escaped ++ body), by simp, .escape hescape hbody⟩
  | case5 c cs hquote hbreak hslash ih =>
    obtain ⟨⟨content, rest'⟩, hcontent, h⟩ := bind_eq_ok.1 h
    cases h
    obtain ⟨body, rfl, hbody⟩ := ih hcontent
    exact ⟨c :: body, rfl, .char hquote hslash (not_or.1 hbreak) hbody⟩

theorem Escape.escape_append {escaped : List Char} {e : Char} (h : Escape Signed escaped e)
    (rest : List Char) : ∃ hlt, escape (escaped ++ rest) = .ok ⟨e, rest, hlt⟩ := by
  have hne : 0 < escaped.length := by cases h <;> exact Nat.succ_pos _
  have hlt : rest.length < (escaped ++ rest).length := by
    rw [List.length_append]
    omega
  exact ⟨hlt, escape_eq_ok_iff.2 ⟨escaped, rfl, h⟩⟩

theorem ShortBody.shortString_append {body value : List Char} (hq : IsQuote quote)
    (h : ShortBody Signed quote body value) (rest : List Char) :
    shortString quote (body ++ rest) = .ok (value, rest) := by
  induction h with
  | close => rw [List.singleton_append, shortString, if_pos rfl]
  | char hquote hslash hbreak _ ih =>
    rw [List.cons_append, shortString, if_neg hquote, if_neg (not_or.2 hbreak), if_neg hslash, ih]
    rfl
  | escape he _ ih =>
    obtain ⟨hlt, hescape⟩ := he.escape_append (_ ++ rest)
    rw [List.cons_append, List.append_assoc, shortString, if_neg hq.ne_slash.symm,
      if_neg (by decide), if_pos rfl, hescape]
    simp only [bind, Except.bind, ih]

theorem three_quotes_iff {c : Char} {cs : List Char} :
    c = quote ∧ cs.take 2 = [quote, quote] ↔ [quote, quote, quote] <+: c :: cs := by
  rw [List.cons_prefix_cons, List.prefix_iff_eq_take, eq_comm (a := c), eq_comm (a := cs.take 2)]
  rfl

theorem LongBody.three_le {body value : List Char} (h : LongBody Signed quote body value) :
    3 ≤ body.length := by
  induction h with
  | close => exact Nat.le_refl 3
  | char _ _ _ ih => exact Nat.le_succ_of_le ih
  | escape _ _ ih =>
    rw [List.length_cons, List.length_append]
    omega

theorem longBody_of_longString {cs value rest : List Char}
    (h : longString quote cs = .ok (value, rest)) :
    ∃ body, cs = body ++ rest ∧ LongBody Signed quote body value := by
  fun_induction longString quote cs generalizing value with
  | case1 => cases h
  | case2 c cs hquotes =>
    obtain ⟨rfl, hquotes⟩ := hquotes
    cases h
    refine ⟨[c, c, c], ?_, .close⟩
    calc c :: cs = c :: (cs.take 2 ++ cs.drop 2) := by rw [List.take_append_drop]
      _ = [c, c, c] ++ cs.drop 2 := by rw [hquotes]; rfl
  | case3 cs _ ih =>
    obtain ⟨⟨e, after, hlt⟩, he, h⟩ := bind_eq_ok.1 h
    obtain ⟨⟨content, rest'⟩, hcontent, h⟩ := bind_eq_ok.1 h
    cases h
    obtain ⟨escaped, rfl, hescape⟩ := escape_eq_ok_iff.1 he
    obtain ⟨body, rfl, hbody⟩ := ih after hlt hcontent
    exact ⟨'\\' :: (escaped ++ body), by simp, .escape hescape hbody⟩
  | case4 c cs hquotes hslash ih =>
    obtain ⟨⟨content, rest'⟩, hcontent, h⟩ := bind_eq_ok.1 h
    cases h
    obtain ⟨body, rfl, hbody⟩ := ih hcontent
    refine ⟨c :: body, rfl, .char (fun hthree => ?_) hslash hbody⟩
    exact hquotes (three_quotes_iff.2 (hthree.trans (List.prefix_append (c :: body) _)))

theorem LongBody.longString_append {body value : List Char} (hq : IsQuote quote)
    (h : LongBody Signed quote body value) (rest : List Char) :
    longString quote (body ++ rest) = .ok (value, rest) := by
  induction h with
  | close => rw [List.cons_append, longString, if_pos ⟨rfl, rfl⟩]; rfl
  | char hquotes hslash hbody ih =>
    rw [List.cons_append, longString, if_neg, if_neg hslash, ih]
    · rfl
    · intro hthree
      refine hquotes (List.prefix_of_prefix_length_le (three_quotes_iff.1 hthree)
        (List.prefix_append (_ :: _) rest) (Nat.le_succ_of_le hbody.three_le))
  | escape he _ ih =>
    obtain ⟨hlt, hescape⟩ := he.escape_append (_ ++ rest)
    rw [List.cons_append, List.append_assoc, longString, if_neg, if_pos rfl, hescape]
    · simp only [bind, Except.bind, ih]
    · exact fun h => hq.ne_slash h.1.symm

theorem ShortBody.take_two_ne {body value rest : List Char} (hq : IsQuote quote)
    (h : ShortBody Signed quote body value)
    (hempty : quote :: body = [quote, quote] → rest.head? ≠ some quote) :
    (body ++ rest).take 2 ≠ [quote, quote] := by
  cases h with
  | close =>
    cases rest with
    | nil => simp
    | cons c rest => simpa using hempty rfl
  | char hquote => simp [hquote]
  | escape => simp [hq.ne_slash.symm]

theorem stringBody_eq_ok_iff (hq : IsQuote quote) {cs value rest : List Char} :
    stringBody quote cs = .ok (value, rest) ↔ QuotedAt Signed quote (quote :: cs) value rest := by
  unfold stringBody
  constructor
  · intro h
    split at h
    next hlong =>
      obtain ⟨body, hbody, hvalue⟩ := longBody_of_longString h
      refine ⟨quote :: quote :: quote :: body, ?_, .long hvalue, by simp⟩
      calc quote :: cs = quote :: (cs.take 2 ++ cs.drop 2) := by rw [List.take_append_drop]
        _ = quote :: quote :: quote :: body ++ rest := by rw [hlong, hbody]; rfl
    next hshort =>
      obtain ⟨body, rfl, hvalue⟩ := shortBody_of_shortString h
      refine ⟨quote :: body, rfl, .short hvalue, fun hempty hhead => hshort ?_⟩
      obtain rfl : body = [quote] := List.tail_eq_of_cons_eq hempty
      obtain ⟨tail, rfl⟩ := List.head?_eq_some_iff.1 hhead
      rfl
  · rintro ⟨lexeme, htext, hquoted, hempty⟩
    cases hquoted with
    | short h =>
      rw [List.cons_append, List.cons.injEq] at htext
      obtain ⟨-, rfl⟩ := htext
      rw [if_neg (h.take_two_ne hq hempty), h.shortString_append hq]
    | long h =>
      simp only [List.cons_append, List.cons.injEq, true_and] at htext
      subst htext
      exact (if_pos rfl).trans (h.longString_append hq rest)

theorem string_eq_ok_iff (hq : IsQuote quote) {cs rest : List Char} {t : Token} :
    string quote cs = .ok (t, rest) ↔
      ∃ value, t = .string (String.ofList value) ∧
        QuotedAt Signed quote (quote :: cs) value rest := by
  simp only [string, bind_eq_ok, ← stringBody_eq_ok_iff hq]
  constructor
  · rintro ⟨⟨value, rest⟩, hbody, h⟩
    cases h
    exact ⟨value, rfl, hbody⟩
  · rintro ⟨value, rfl, hbody⟩
    exact ⟨⟨value, rest⟩, hbody, rfl⟩

theorem start_of_isQuote (hq : IsQuote quote) : start quote = .quote := by
  rcases hq with rfl | rfl <;> rfl

theorem tokenAfter_quote (hq : IsQuote quote) (comparing afterValue : Bool) (cs : List Char) :
    tokenAfter comparing afterValue quote cs = string quote cs := by
  simp only [tokenAfter, start_of_isQuote hq]

section

variable {N N' : List Char → Nat → Prop}

theorem ShortBody.imp {body value : List Char} (h : ShortBody N quote body value)
    (hescape : ∀ escaped e, '\\' :: escaped <:+: body → Escape N escaped e →
      Escape N' escaped e) : ShortBody N' quote body value := by
  induction h with
  | close => exact .close
  | @char c body value hquote hslash hbreak _ ih =>
    refine .char hquote hslash hbreak (ih fun escaped e hinside => ?_)
    exact hescape escaped e (hinside.trans (List.suffix_cons c body).isInfix)
  | @escape escaped e body value he _ ih =>
    refine .escape (hescape escaped e (List.prefix_append _ body).isInfix he)
      (ih fun escaped' e' hinside => ?_)
    exact hescape escaped' e' (hinside.trans (List.suffix_append ('\\' :: escaped) body).isInfix)

theorem LongBody.imp {body value : List Char} (h : LongBody N quote body value)
    (hescape : ∀ escaped e, '\\' :: escaped <:+: body → Escape N escaped e →
      Escape N' escaped e) : LongBody N' quote body value := by
  induction h with
  | close => exact .close
  | @char c body value hquotes hslash _ ih =>
    refine .char hquotes hslash (ih fun escaped e hinside => ?_)
    exact hescape escaped e (hinside.trans (List.suffix_cons c body).isInfix)
  | @escape escaped e body value he _ ih =>
    refine .escape (hescape escaped e (List.prefix_append _ body).isInfix he)
      (ih fun escaped' e' hinside => ?_)
    exact hescape escaped' e' (hinside.trans (List.suffix_append ('\\' :: escaped) body).isInfix)

theorem Quoted.imp {lexeme value : List Char} (h : Quoted N quote lexeme value)
    (hescape : ∀ escaped e, '\\' :: escaped <:+: lexeme → Escape N escaped e →
      Escape N' escaped e) : Quoted N' quote lexeme value := by
  cases h with
  | @short body _ h =>
    refine .short (h.imp fun escaped e hinside => ?_)
    exact hescape escaped e (hinside.trans (List.suffix_cons quote body).isInfix)
  | @long body _ h =>
    refine .long (h.imp fun escaped e hinside => ?_)
    exact hescape escaped e (hinside.trans
      (List.suffix_append [quote, quote, quote] body).isInfix)

end

theorem Escape.signed {escaped : List Char} {e : Char} (h : Escape Hexadecimal escaped e) :
    Escape Signed escaped e := by
  cases h with
  | letter hmem => exact .letter hmem
  | short hlength h => exact .short hlength (.inl h)
  | long hlength h => exact .long hlength (.inl h)

def Unsigned (lexeme : List Char) : Prop :=
  ¬ ['\\', 'u', '+'] <:+: lexeme ∧ ¬ ['\\', 'U', '+'] <:+: lexeme

theorem Escape.hexadecimal {lexeme escaped : List Char} {e : Char} (h : Escape Signed escaped e)
    (hlexeme : Unsigned lexeme) (hinside : '\\' :: escaped <:+: lexeme) :
    Escape Hexadecimal escaped e := by
  have hplus : ∀ u ds, '\\' :: u :: '+' :: ds <:+: lexeme → ['\\', u, '+'] <:+: lexeme :=
    fun u ds h => (List.prefix_append ['\\', u, '+'] ds).isInfix.trans h
  cases h with
  | letter hmem => exact .letter hmem
  | short hlength h =>
    rcases h with h | ⟨ds, rfl, -⟩
    · exact .short hlength h
    · exact absurd (hplus _ _ hinside) hlexeme.1
  | long hlength h =>
    rcases h with h | ⟨ds, rfl, -⟩
    · exact .long hlength h
    · exact absurd (hplus _ _ hinside) hlexeme.2

/-- Behind the string the tokenizer goes on as behind a value. -/
theorem tokensFrom_quote_iff (hq : IsQuote quote) {depth : Nat} {afterValue : Bool}
    {cs : List Char} {ts : List Located} :
    Tokenizer.tokensFrom depth afterValue (quote :: cs) = .ok ts ↔
      ∃ value rest us, QuotedAt Signed quote (quote :: cs) value rest ∧
        Tokenizer.tokensFrom depth true rest = .ok us ∧
        ts = ⟨.string (String.ofList value), quote :: cs⟩ :: us := by
  have hskip := skipBlanks_of_start (c := quote) (by rw [start_of_isQuote hq]; decide) cs
  rw [Tokenizer.tokensFrom_of_skipBlanks_cons hskip, tokenAfter_quote hq]
  constructor
  · intro h
    split at h
    next => cases h
    next t rest htoken =>
      obtain ⟨value, rfl, hat⟩ := (string_eq_ok_iff hq).1 htoken
      change Except.map _ (Tokenizer.tokensFrom depth true rest) = _ at h
      cases hrest : Tokenizer.tokensFrom depth true rest with
      | error e =>
        rw [hrest] at h
        cases h
      | ok us =>
        rw [hrest] at h
        cases h
        exact ⟨value, rest, us, hat, hrest, rfl⟩
  · rintro ⟨value, rest, us, hat, hrest, rfl⟩
    rw [(string_eq_ok_iff hq).2 ⟨value, rfl, hat⟩]
    change Except.map _ (Tokenizer.tokensFrom depth true rest) = _
    rw [hrest]
    rfl

/-- Where a text starts with a quote, the tokenizer takes a string of the grammar and no other
token, and the text has tokens only if there is one. All strings with hexadecimal numbers are taken,
and only those if no number has a sign. -/
theorem quotedAt_iff (hq : IsQuote quote) (depth : Nat) (afterValue : Bool) (cs : List Char) :
    (∀ comparing t rest, tokenAfter comparing afterValue quote cs = .ok (t, rest) ↔
      ∃ value, t = .string (String.ofList value) ∧
        QuotedAt Signed quote (quote :: cs) value rest) ∧
    (∀ ts, Tokenizer.tokensFrom depth afterValue (quote :: cs) = .ok ts ↔
      ∃ value rest us, QuotedAt Signed quote (quote :: cs) value rest ∧
        Tokenizer.tokensFrom depth true rest = .ok us ∧
        ts = ⟨.string (String.ofList value), quote :: cs⟩ :: us) ∧
    (∀ lexeme value, Quoted Hexadecimal quote lexeme value → Quoted Signed quote lexeme value) ∧
    ∀ lexeme value, Unsigned lexeme →
      (Quoted Signed quote lexeme value ↔ Quoted Hexadecimal quote lexeme value) := by
  have hsigned : ∀ lexeme value,
      Quoted Hexadecimal quote lexeme value → Quoted Signed quote lexeme value :=
    fun lexeme value h => h.imp fun _ _ _ => Escape.signed
  refine ⟨fun comparing t rest => ?_, fun ts => tokensFrom_quote_iff hq, hsigned,
    fun lexeme value hlexeme => ⟨fun h => ?_, hsigned lexeme value⟩⟩
  · rw [tokenAfter_quote hq, string_eq_ok_iff hq]
  · exact h.imp fun _ _ hinside he => he.hexadecimal hlexeme hinside

theorem quotedAt_long :
    IsQuote '"' ∧ ∃ value, String.ofList value = "\"\"\nA" ∧
      QuotedAt Signed '"' "\"\"\"\"\"\\n\\u0041\"\"\"\" ;".toList value "\" ;".toList := by
  have hq : IsQuote '"' := .inl rfl
  have htoken : tokenAfter false false '"' "\"\"\"\"\\n\\u0041\"\"\"\" ;".toList =
      .ok (.string "\"\"\nA", "\" ;".toList) := by decide +kernel
  obtain ⟨value, hvalue, hat⟩ := ((quotedAt_iff hq 0 false _).1 false _ _).1 htoken
  exact ⟨hq, value, (Token.string.inj hvalue).symm, hat⟩

/-- A number with a sign is taken for a letter, and it is none of the grammar. -/
theorem not_quotedAt_plus :
    tokenize "\"\\u+041\"".toList = .ok [⟨.string "A", "\"\\u+041\"".toList⟩] ∧
    ∀ value rest, ¬ QuotedAt Hexadecimal '"' "\"\\u+041\"".toList value rest := by
  refine ⟨by decide +kernel, ?_⟩
  rintro value rest ⟨lexeme, htext, hquoted, -⟩
  simp only [String.reduceToList] at htext
  cases hquoted with
  | short h =>
    cases h with
    | close => cases htext
    | char _ hslash =>
      simp only [List.cons_append, List.cons.injEq] at htext
      exact hslash htext.2.1.symm
    | escape he =>
      cases he with
      | letter hmem =>
        simp only [List.cons_append, List.nil_append, List.cons.injEq] at htext
        obtain ⟨-, -, rfl, -⟩ := htext
        simp [escapeLetters] at hmem
      | @short ds _ hlength hnumber =>
        cases ds with
        | nil => cases hlength
        | cons d ds =>
          simp only [List.cons_append, List.cons.injEq] at htext
          obtain ⟨-, -, -, rfl, -⟩ := htext
          exact not_hexadecimal_plus _ _ hnumber
      | long => simp at htext
  | long => cases htext

end Scanner

end LinkedRaces
