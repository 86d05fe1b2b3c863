import LinkedRaces.Proofs.Lexical.Cursor.Spans

/-!
Blanks between tokens. Behind a token, or at the beginning, blanks and comments can be put into a
text: the tokens in front of them are read as before, since it goes unnoticed that blanks follow,
and those behind them are read from the same text.
-/

namespace LinkedRaces

open Text (RestAt utf8Size)

namespace Text

variable {a b m rest : List Char} {pos : Nat}

/-- The text with something put in at byte `pos`, if that is a boundary. -/
def insertAt? (pos : Nat) (inserted text : List Char) : Option (List Char) :=
  (cutAt? pos text).map fun (before, rest) => before ++ (inserted ++ rest)

theorem RestAt.replace (h : RestAt (a ++ b) pos (m ++ b)) (s : List Char) :
    RestAt (a ++ s) pos (m ++ s) := by
  obtain ⟨before, heq, rfl⟩ := restAt_iff.1 h
  rw [← List.append_assoc] at heq
  obtain rfl := List.append_cancel_right heq
  exact restAt_iff.2 ⟨before, List.append_assoc .., rfl⟩

end Text

namespace Cursor

variable {text a b left : List Char} {x y : Context} {pos stop : Nat} {s : Span} {ss : List Span}

theorem Reads.exists_append {cs : List Char} (h : Reads text x pos ss y stop)
    (hpos : RestAt text pos cs) (hstop : RestAt text stop left) : ∃ used, cs = used ++ left := by
  induction h generalizing cs with
  | stay x pos => exact ⟨[], hpos.rest_eq hstop⟩
  | @step _ _ _ _ _ _ gap _ _ c before _ _ token behind _ ih =>
    obtain rfl := hpos.rest_eq before
    obtain ⟨lexeme, rfl, -⟩ := Scanner.tokenAfter_unnoticed token
    obtain ⟨used, rfl⟩ := ih behind hstop
    exact ⟨gap ++ c :: (lexeme ++ used), by simp⟩

theorem Reads.split (h : Reads text x pos ss y stop) (hs : s ∈ ss) :
    ∃ ss₁ ss₂ z, ss = ss₁ ++ ss₂ ∧ Reads text x pos ss₁ z s.stop ∧
      Reads text z s.stop ss₂ y stop := by
  induction h with
  | stay => cases hs
  | step before isGap start token behind more ih =>
    rcases List.mem_cons.1 hs with rfl | hs
    · exact ⟨[s], _, _, rfl, .step before isGap start token behind (.stay _ _), more⟩
    · obtain ⟨ss₁, ss₂, z, rfl, hfront, hback⟩ := ih hs
      exact ⟨_ :: ss₁, ss₂, z, rfl, .step before isGap start token behind hfront, hback⟩

theorem Reads.exists_restAt {cs : List Char} (h : Reads text x pos ss y stop)
    (hpos : RestAt text pos cs) : ∃ left, RestAt text stop left := by
  induction h generalizing cs with
  | stay => exact ⟨cs, hpos⟩
  | step _ _ _ _ behind _ ih => exact ih behind

theorem Reads.replace (h : Reads (a ++ b) x pos ss y stop) (hstop : RestAt (a ++ b) stop b)
    {s : List Char} (hs : Separated s) : Reads (a ++ s) x pos ss y stop := by
  induction h with
  | stay x pos => exact .stay x pos
  | @step x y pos stop r ss gap _ _ c before isGap start token behind more ih =>
    obtain ⟨lexeme, rfl, hunnoticed⟩ := Scanner.tokenAfter_unnoticed token
    obtain ⟨m, rfl⟩ := more.exists_append behind hstop
    have hbefore := Text.RestAt.replace (m := gap ++ c :: (lexeme ++ m)) (by simpa using before) s
    have hstart := Text.RestAt.replace (m := c :: (lexeme ++ m)) (by simpa using start) s
    exact .step (by simpa using hbefore) isGap (by simpa using hstart)
      (hunnoticed _ (.of_separated m b hs)) (behind.replace s) (ih hstop)

def shifted (pos n start : Nat) : Nat := if start < pos then start else start + n

variable {text' : List Char} {n : Nat}

theorem places_front {ls ls' : List Located} (h : List.Forall₂ (Marks text) ss ls)
    (h' : List.Forall₂ (Marks text') ss ls') (hlt : ∀ s ∈ ss, s.start < pos) :
    places text' ls' = (places text ls).map (Prod.map id (shifted pos n)) := by
  rw [places_of_marks h', places_of_marks h, List.map_map]
  refine List.map_congr_left fun s hs => ?_
  simp [shifted, hlt s hs]

theorem places_back {us : List Located} (h : List.Forall₂ (Marks text) ss us)
    (hle : ∀ s ∈ ss, pos ≤ s.start) (hsize : utf8Size text' = utf8Size text + n) :
    places text' us = (places text us).map (Prod.map id (shifted pos n)) := by
  have hmoved : places text' us = ss.map fun s => (s.token, s.start + n) := by
    refine map_eq_map_of_marks h fun s x hx => ?_
    have := hx.2.add_utf8Size
    rw [hx.1, Located.startIn, hsize]
    congr 1
    omega
  rw [hmoved, places_of_marks h, List.map_map]
  refine List.map_congr_left fun s hs => ?_
  simp [shifted, Nat.not_lt.2 (hle s hs)]

end Cursor

section

open Cursor

variable {text gap blanks comment : List Char} {ts : List Located} {pos : Nat}

/-- The beginning of a text, or the end of one of its tokens. -/
def IsSeam (text : List Char) (pos : Nat) : Prop := pos = 0 ∨ ∃ s ∈ (spans text).1, s.stop = pos

theorem IsSeam.split {y : Context} {stop : Nat} (hpos : IsSeam text pos)
    (h : Reads text .start 0 (spans text).1 y stop) :
    ∃ ss₁ ss₂ z, Reads text .start 0 ss₁ z pos ∧ Reads text z pos ss₂ y stop := by
  rcases hpos with rfl | ⟨s, hs, rfl⟩
  · exact ⟨[], _, .start, .stay .start 0, h⟩
  · obtain ⟨ss₁, ss₂, z, -, hfront, hback⟩ := h.split hs
    exact ⟨ss₁, ss₂, z, hfront, hback⟩

/-- A gap that begins with a blank can be put in at a seam. -/
theorem tokenize_insert_gap (h : tokenize text = .ok ts) (hpos : IsSeam text pos) (hgap : Gap gap)
    (hblank : ∀ rest, Separated (gap ++ rest)) :
    ∃ text' ts', Text.insertAt? pos gap text = some text' ∧ tokenize text' = .ok ts' ∧
      places text' ts' = (places text ts).map (Prod.map id (shifted pos (utf8Size gap))) := by
  obtain ⟨y, stop, left, hreads, hleft, hskip⟩ := reads_of_tokenize h
  obtain ⟨ss₁, ss₂, z, hfront, hback⟩ := hpos.split hreads
  obtain ⟨b, hb⟩ := hfront.exists_restAt (Text.restAt_zero text)
  obtain ⟨a, rfl, rfl⟩ := Text.restAt_iff.1 hb
  have hb' : RestAt (a ++ (gap ++ b)) (utf8Size a) (gap ++ b) := Text.restAt_iff.2 ⟨a, rfl, rfl⟩
  -- in front of the seam the tokens are at the same places, behind it they are the same
  have hfront' := hfront.replace hb (hblank b)
  obtain ⟨ls, hls, htokens⟩ := hfront.tokensFrom_eq (Text.restAt_zero _) hb
  obtain ⟨ls', hls', htokens'⟩ := hfront'.tokensFrom_eq (Text.restAt_zero _) hb'
  obtain ⟨us, hus, hmore⟩ := hback.tokensFrom_eq hb hleft
  rw [Tokenizer.tokensFrom_of_skipBlanks_nil hskip] at hmore
  rw [hmore] at htokens
  rw [Tokenizer.tokensFrom_congr (Scanner.skipBlanks_append hgap b), hmore] at htokens'
  obtain rfl : ts = ls ++ us := by simpa [Except.map] using h.symm.trans htokens
  have hlt (s : Span) (hs : s ∈ ss₁) : s.start < utf8Size a :=
    Nat.lt_of_lt_of_le (hfront.tiles.lt_and_isBoundary hs).1 (hfront.tiles.stop_le hs)
  have hsize : utf8Size (a ++ (gap ++ b)) = utf8Size (a ++ b) + utf8Size gap := by
    simp only [Text.utf8Size_append]
    omega
  refine ⟨a ++ (gap ++ b), ls' ++ us, ?_, ?_, ?_⟩
  · rw [Text.insertAt?, Text.cutAt?_append, Option.map_some]
  · exact htokens'.trans (by simp [Except.map])
  · rw [places_append, places_append, List.map_append, places_front hls hls' hlt,
      places_back hus hback.tiles.pairwise.2 hsize]

/-- A comment from its mark to the line feed behind it, which alone ends a comment. -/
def IsComment (comment : List Char) : Prop :=
  ∃ body, '\n' ∉ body ∧ comment = '#' :: (body ++ ['\n'])

/-- Blanks can be put in at the end of a token and at the beginning, also with a comment behind
them. The tokens are the same and begin with the same characters. -/
theorem tokenize_insert_blanks (h : tokenize text = .ok ts) (hpos : IsSeam text pos)
    (hne : blanks ≠ []) (hblanks : ∀ c ∈ blanks, Text.isBlank c)
    (hcomment : comment = [] ∨ IsComment comment) :
    ∃ text' ts', Text.insertAt? pos (blanks ++ comment) text = some text' ∧
      tokenize text' = .ok ts' ∧
      places text' ts' =
        (places text ts).map (Prod.map id (shifted pos (utf8Size (blanks ++ comment)))) := by
  have hgap : Gap comment := by
    rcases hcomment with rfl | ⟨body, hbody, rfl⟩
    · exact .nil
    · exact .comment hbody .nil
  refine tokenize_insert_gap h hpos ((gap_of_blanks hblanks).append hgap) fun rest => ?_
  cases blanks with
  | nil => exact absurd rfl hne
  | cons c blanks => exact separated_cons (hblanks c List.mem_cons_self) _

theorem tokenize_insert_blanks_angle :
    let text := "?é<?y".toList
    let text' := "?é< #>\n?y".toList
    Text.insertAt? 4 " #>\n".toList text = some text' ∧ ∃ ts', tokenize text' = .ok ts' ∧
      places text' ts' = [(.var "é", 0), (.mark .less, 3), (.var "y", 8)] := by
  intro text text'
  let ts : List Located := [⟨.var "é", text⟩, ⟨.mark .less, text.drop 2⟩, ⟨.var "y", text.drop 3⟩]
  have htokens : tokenize text = .ok ts := by decide +kernel
  have hmem : ⟨.mark .less, 3, 4⟩ ∈ (spans text).1 := by decide +kernel
  have hinsert : Text.insertAt? 4 " #>\n".toList text = some text' := by decide +kernel
  obtain ⟨_, ts', htext', hts', hplaces⟩ :=
    @tokenize_insert_blanks text [' '] "#>\n".toList ts 4 htokens (.inr ⟨_, hmem, rfl⟩)
      (by decide) (List.forall_mem_singleton.2 (by decide)) (.inr ⟨['>'], by decide, by decide⟩)
  cases htext'.symm.trans hinsert
  exact ⟨hinsert, ts', hts', hplaces⟩

end

end LinkedRaces
