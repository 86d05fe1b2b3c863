import LinkedRaces.Proofs.Lexical.Cursor.Agreement
import LinkedRaces.Proofs.Lexical.LineBreaks

/-!
All tokens of a text, with the bytes that each one takes up. `Reads` says how they are read one
after the other, each behind a gap. So they take up pieces of the text one after the other, none of
them empty, and what is outside of them are gaps.
-/

namespace LinkedRaces

open Text (RestAt IsBoundary slice? utf8Size)

def Located.startIn (text : List Char) (x : Located) : Nat := utf8Size text - utf8Size x.text

def places (text : List Char) (ts : List Located) : List (Token × Nat) :=
  ts.map fun x => (x.token, x.startIn text)

@[simp] theorem places_append (text : List Char) (ts us : List Located) :
    places text (ts ++ us) = places text ts ++ places text us :=
  List.map_append

namespace Cursor

open Scanner (skipBlanks tokenAfter)

/-- A token, and the bytes from the one that it begins with up to the one behind it. -/
structure Span where
  token : Token
  start : Nat
  stop : Nat
deriving DecidableEq

section

variable {text cs : List Char} {c : Char} {start pos stop : Nat} {t : Token}

theorem le_of_behindBlanks {inComment : Bool} (h : behindBlanks text inComment pos = .ok start) :
    pos ≤ start := by
  fun_induction behindBlanks text inComment pos with
  | case1 => cases h
  | case2 =>
    cases h
    exact Nat.le_refl _
  | case3 | case4 | case5 =>
    rename_i ih
    exact Nat.le_trans (Nat.le_add_right ..) (ih h)
  | case6 =>
    cases h
    exact Nat.le_refl _

theorem lt_of_tokenAfter {comparing afterValue : Bool} {after : List Char}
    (hstart : RestAt text start (c :: cs)) (hstop : RestAt text stop after)
    (h : tokenAfter comparing afterValue c cs = .ok (t, after)) : start < stop := by
  obtain ⟨lexeme, rfl, -⟩ := Scanner.tokenAfter_unnoticed h
  rw [← List.cons_append] at hstart
  have := hstart.append.pos_eq hstop
  have := Text.utf8Size_pos (List.cons_ne_nil c lexeme)
  omega

theorem lt_of_token {comparing afterValue : Bool} (hstart : restAt text start = .ok (c :: cs))
    (h : token text comparing afterValue c start = .ok (t, stop)) : start < stop := by
  have hrest := restAt_eq_ok_iff.1 hstart
  have hagrees : Agrees text (c :: cs) (tokenAfter comparing afterValue c cs)
      (token text comparing afterValue c start) := token_ok hrest
  cases hread : tokenAfter comparing afterValue c cs with
  | error f =>
    rw [hread] at hagrees
    exact nomatch h.symm.trans hagrees
  | ok r =>
    rw [hread] at hagrees
    obtain ⟨p, hp, hstop⟩ := hagrees
    cases h.symm.trans hp
    exact lt_of_tokenAfter hrest hstop hread

end

def spansFrom (text : List Char) (x : Context) (pos : Nat) : List Span × Except Halt Nat :=
  match _h : behindBlanks text false pos with
  | .error e => ([], .error e)
  | .ok start =>
    match _hstart : restAt text start with
    | .error e => ([], .error e)
    | .ok [] => ([], .ok start)
    | .ok (c :: _) =>
      match _htoken : token text x.compares x.afterValue c start with
      | .error e => ([], .error e)
      | .ok (t, stop) =>
        let (spans, last) := spansFrom text (x.next t) stop
        (⟨t, start, stop⟩ :: spans, last)
termination_by Text.utf8Size text - pos
decreasing_by
  have := le_of_behindBlanks _h
  have := lt_of_restAt _hstart
  have := lt_of_token _hstart _htoken
  omega

def spans (text : List Char) : List Span × Except Halt Nat := spansFrom text .start 0

/-- From `pos` on and after the context `x`, the spans are read one after the other, each behind a
gap. Then the context is `y`, and `stop` is the position behind the last one. -/
inductive Reads (text : List Char) : Context → Nat → List Span → Context → Nat → Prop
  | stay (x : Context) (pos : Nat) : Reads text x pos [] x pos
  | step {x y : Context} {pos stop : Nat} {s : Span} {ss : List Span} {gap cs after : List Char}
    {c : Char} (before : RestAt text pos (gap ++ c :: cs)) (isGap : Gap gap)
    (start : RestAt text s.start (c :: cs))
    (token : tokenAfter x.compares x.afterValue c cs = .ok (s.token, after))
    (behind : RestAt text s.stop after)
    (more : Reads text (x.next s.token) s.stop ss y stop) : Reads text x pos (s :: ss) y stop

inductive Ends (text : List Char) (y : Context) (stop : Nat) : Except Halt Nat → Prop
  | complete {left : List Char} (rest : RestAt text stop left) (skip : skipBlanks left = []) :
    Ends text y stop (.ok (Text.utf8Size text))
  | fault {left cs : List Char} {c : Char} {f : LexicalFault} {start : Nat}
    (rest : RestAt text stop left) (skip : skipBlanks left = c :: cs)
    (start : RestAt text start (c :: cs))
    (token : tokenAfter y.compares y.afterValue c cs = .error f) :
    Ends text y stop (.error (.fault ⟨f, c :: cs⟩))

theorem reads_spansFrom {text cs : List Char} {pos : Nat} (x : Context) (h : RestAt text pos cs) :
    ∃ y stop, Reads text x pos (spansFrom text x pos).1 y stop ∧
      Ends text y stop (spansFrom text x pos).2 := by
  obtain ⟨start, hblanks, hstart⟩ := behindBlanks_ok h false
  change RestAt text start (skipBlanks cs) at hstart
  rw [spansFrom]
  split <;> rename_i heq <;> rw [hblanks] at heq <;> cases heq
  cases hskip : skipBlanks cs with
  | nil =>
    rw [hskip] at hstart
    split <;> rename_i heq <;> rw [restAt_ok hstart] at heq <;> cases heq
    have hend : start = Text.utf8Size text := by simpa using hstart.add_utf8Size
    exact ⟨x, pos, .stay x pos, hend ▸ .complete h hskip⟩
  | cons c rest =>
    rw [hskip] at hstart
    have hagrees : Agrees text (c :: rest) (tokenAfter x.compares x.afterValue c rest)
        (token text x.compares x.afterValue c start) := token_ok hstart
    split <;> rename_i heq <;> rw [restAt_ok hstart] at heq <;> cases heq
    cases hread : tokenAfter x.compares x.afterValue c rest with
    | error f =>
      rw [hread] at hagrees
      have htoken : token text x.compares x.afterValue c start = _ := hagrees
      split <;> rename_i heq <;> rw [htoken] at heq <;> cases heq
      exact ⟨x, pos, .stay x pos, .fault h hskip hstart hread⟩
    | ok r =>
      obtain ⟨t, after⟩ := r
      rw [hread] at hagrees
      obtain ⟨stop, htoken, hstop⟩ := hagrees
      split <;> rename_i heq <;> rw [htoken] at heq <;> cases heq
      obtain ⟨gap, rfl, hgap⟩ := Scanner.exists_gap hskip
      have hlt : after.length < (gap ++ c :: rest).length := by
        have := Scanner.length_tokenAfter_le hread
        simp only [List.length_append, List.length_cons]
        omega
      obtain ⟨y, last, hreads, hends⟩ := reads_spansFrom (x.next t) hstop
      exact ⟨y, last, .step h hgap hstart hread hstop hreads, hends⟩
termination_by cs.length

theorem reads_spans (text : List Char) :
    ∃ y stop, Reads text .start 0 (spans text).1 y stop ∧ Ends text y stop (spans text).2 :=
  reads_spansFrom .start (Text.restAt_zero text)

def Marks (text : List Char) (s : Span) (x : Located) : Prop :=
  s.token = x.token ∧ RestAt text s.start x.text

theorem Reads.tokensFrom_eq {text : List Char} {x y : Context} {pos stop : Nat} {ss : List Span}
    (h : Reads text x pos ss y stop) {cs left : List Char} (hpos : RestAt text pos cs)
    (hstop : RestAt text stop left) :
    ∃ ls, List.Forall₂ (Marks text) ss ls ∧
      Tokenizer.tokensFrom x.depth x.afterValue cs =
        (Tokenizer.tokensFrom y.depth y.afterValue left).map (ls ++ ·) := by
  induction h generalizing cs with
  | stay x pos =>
    obtain rfl := hpos.rest_eq hstop
    refine ⟨[], .nil, ?_⟩
    cases Tokenizer.tokensFrom x.depth x.afterValue cs <;> rfl
  | @step x y pos stop s ss gap rest after c before isGap start token behind more ih =>
    obtain rfl := hpos.rest_eq before
    obtain ⟨ls, hls, heq⟩ := ih behind hstop
    refine ⟨⟨s.token, c :: rest⟩ :: ls, .cons ⟨rfl, start⟩ hls, ?_⟩
    have hskip : skipBlanks (gap ++ c :: rest) = c :: rest := by
      rw [Scanner.skipBlanks_append isGap]
      exact Scanner.skipBlanks_of_start (Scanner.start_of_tokenAfter token) rest
    have htoken : tokenAfter (decide (0 < x.depth) && x.afterValue) x.afterValue c rest = _ := token
    have hmore :
        Tokenizer.tokensFrom (Tokenizer.depthAfter x.depth s.token) s.token.endsValue after = _ :=
      heq
    rw [Tokenizer.tokensFrom_of_skipBlanks_cons hskip, htoken]
    simp only [hmore]
    cases Tokenizer.tokensFrom y.depth y.afterValue left <;> rfl

/-- The spans are those of the tokens, and the same fault ends them. -/
theorem spans_agree (text : List Char) :
    match tokenize text with
    | .ok ts => List.Forall₂ (Marks text) (spans text).1 ts ∧
        (spans text).2 = .ok (Text.utf8Size text)
    | .error e => (spans text).2 = .error (.fault e) := by
  obtain ⟨y, stop, hreads, hends⟩ := reads_spans text
  generalize (spans text).2 = last at hends
  cases hends with
  | @complete left rest skip =>
    obtain ⟨ls, hls, heq⟩ := hreads.tokensFrom_eq (Text.restAt_zero text) rest
    rw [Tokenizer.tokensFrom_of_skipBlanks_nil skip] at heq
    have htokens : tokenize text = .ok ls := heq.trans (by simp [Except.map])
    rw [htokens]
    exact ⟨hls, rfl⟩
  | @fault left cs c f start rest skip _ token =>
    obtain ⟨ls, -, heq⟩ := hreads.tokensFrom_eq (Text.restAt_zero text) rest
    have htoken : tokenAfter (decide (0 < y.depth) && y.afterValue) y.afterValue c cs = _ := token
    rw [Tokenizer.tokensFrom_of_skipBlanks_cons skip, htoken] at heq
    have hfault : tokenize text = .error ⟨f, c :: cs⟩ := heq
    rw [hfault]

theorem reads_of_tokenize {text : List Char} {ts : List Located} (h : tokenize text = .ok ts) :
    ∃ y stop left, Reads text .start 0 (spans text).1 y stop ∧ RestAt text stop left ∧
      skipBlanks left = [] := by
  obtain ⟨y, stop, hreads, hends⟩ := reads_spans text
  have hagree := spans_agree text
  rw [h] at hagree
  rw [hagree.2] at hends
  cases hends with
  | complete rest skip => exact ⟨y, stop, _, hreads, rest, skip⟩

section

variable {text : List Char} {x y : Context} {pos stop : Nat} {s : Span} {ss : List Span}

/-- From `pos` to `stop` the text consists of the spans, none of which is empty, with a gap in front
of each. -/
inductive Tiles (text : List Char) : Nat → List Span → Nat → Prop
  | nil (pos : Nat) : Tiles text pos [] pos
  | cons {pos stop : Nat} {s : Span} {ss : List Span} {gap lexeme : List Char}
    (before : slice? pos s.start text = some gap) (isGap : Gap gap)
    (piece : slice? s.start s.stop text = some lexeme) (nonempty : lexeme ≠ [])
    (behind : Tiles text s.stop ss stop) : Tiles text pos (s :: ss) stop

theorem Reads.tiles (h : Reads text x pos ss y stop) : Tiles text pos ss stop := by
  induction h with
  | stay x pos => exact .nil pos
  | step before isGap start token behind _ ih =>
    obtain ⟨lexeme, rfl, -⟩ := Scanner.tokenAfter_unnoticed token
    rw [← List.cons_append] at start
    exact .cons (before.slice? start) isGap (start.slice? behind) (List.cons_ne_nil _ _) ih

namespace Tiles

theorem pairwise (h : Tiles text pos ss stop) :
    ss.Pairwise (fun s s' => s.stop ≤ s'.start) ∧ ∀ s ∈ ss, pos ≤ s.start := by
  induction h with
  | nil => exact ⟨.nil, nofun⟩
  | cons before _ piece _ _ ih =>
    obtain ⟨hpairwise, hle⟩ := ih
    have hbefore := Text.add_utf8Size_of_slice? before
    have hpiece := Text.add_utf8Size_of_slice? piece
    refine ⟨List.pairwise_cons.2 ⟨hle, hpairwise⟩, List.forall_mem_cons.2 ⟨by omega, fun s hs => ?_⟩⟩
    have := hle s hs
    omega

theorem le (h : Tiles text pos ss stop) : pos ≤ stop := by
  induction h with
  | nil pos => exact Nat.le_refl pos
  | cons before _ piece _ _ ih =>
    have := Text.add_utf8Size_of_slice? before
    have := Text.add_utf8Size_of_slice? piece
    omega

theorem stop_le (h : Tiles text pos ss stop) (hs : s ∈ ss) : s.stop ≤ stop := by
  induction h with
  | nil => cases hs
  | cons _ _ _ _ behind ih =>
    rcases List.mem_cons.1 hs with rfl | hs
    · exact behind.le
    · exact ih hs

theorem lt_and_isBoundary (h : Tiles text pos ss stop) (hs : s ∈ ss) :
    s.start < s.stop ∧ IsBoundary text s.start ∧ IsBoundary text s.stop := by
  induction h with
  | nil => cases hs
  | cons _ _ piece nonempty _ ih =>
    rcases List.mem_cons.1 hs with rfl | hs
    · have := Text.add_utf8Size_of_slice? piece
      have := Text.utf8Size_pos nonempty
      exact ⟨by omega, Text.isBoundary_of_slice? piece⟩
    · exact ih hs

end Tiles

/-- The spans are pieces of the text between boundaries, in order, and all that is in front of them
and between them are gaps. -/
structure Tiling (text : String) (ss : List Span) (stop : Nat) : Prop where
  tiles : Tiles text.toList 0 ss stop
  disjoint : ss.Pairwise fun s s' => s.stop ≤ s'.start
  nonempty : ∀ s ∈ ss, s.start < s.stop
  valid : ∀ s ∈ ss, String.Pos.Raw.IsValid text ⟨s.start⟩ ∧ String.Pos.Raw.IsValid text ⟨s.stop⟩

/-- How reading ends, with the cursor and without: behind the last token, which ends at `stop`, is a
gap up to the end of the text, or one up to the token with the fault. -/
inductive Outcome (text : List Char) (ss : List Span) (stop : Nat) :
    Except Halt Nat → Except LexicalError (List Located) → Prop
  | complete {ts : List Located} {gap : List Char}
    (located : places text ts = ss.map fun s => (s.token, s.start))
    (behind : slice? stop (utf8Size text) text = some gap) (isGap : LastGap gap) :
    Outcome text ss stop (.ok (utf8Size text)) (.ok ts)
  | fault {e : LexicalError} {gap : List Char} {start : Nat}
    (behind : slice? stop start text = some gap) (isGap : Gap gap)
    (place : restAt text start = .ok e.text) : Outcome text ss stop (.error (.fault e)) (.error e)

theorem Marks.startIn_eq {x : Located} (h : Marks text s x) : s.start = x.startIn text := by
  have := h.2.add_utf8Size
  rw [Located.startIn]
  omega

theorem Reads.tiling {text : String} (h : Reads text.toList x 0 ss y stop) : Tiling text ss stop where
  tiles := h.tiles
  disjoint := h.tiles.pairwise.1
  nonempty s hs := (h.tiles.lt_and_isBoundary hs).1
  valid s hs := by
    obtain ⟨-, hstart, hstop⟩ := h.tiles.lt_and_isBoundary hs
    exact ⟨(Text.isBoundary_iff_isValid ..).1 hstart, (Text.isBoundary_iff_isValid ..).1 hstop⟩

theorem map_eq_map_of_marks {α : Type} {f : Located → α} {g : Span → α} {ts : List Located}
    (h : List.Forall₂ (Marks text) ss ts) (heq : ∀ s x, Marks text s x → f x = g s) :
    ts.map f = ss.map g := by
  induction h with
  | nil => rfl
  | cons hmarks _ ih => rw [List.map_cons, List.map_cons, heq _ _ hmarks, ih]

theorem places_of_marks {ts : List Located} (h : List.Forall₂ (Marks text) ss ts) :
    places text ts = ss.map fun s => (s.token, s.start) :=
  map_eq_map_of_marks h fun s x hx => by rw [hx.1, hx.startIn_eq]

theorem spans_outcome (text : String) :
    ∃ stop, Tiling text (spans text.toList).1 stop ∧
      Outcome text.toList (spans text.toList).1 stop (spans text.toList).2
        (tokenize text.toList) := by
  obtain ⟨y, stop, hreads, hends⟩ := reads_spans text.toList
  refine ⟨stop, hreads.tiling, ?_⟩
  have hagree := spans_agree text.toList
  generalize (spans text.toList).2 = last at hends hagree
  generalize tokenize text.toList = tokens at hagree
  cases hends with
  | @complete left hleft hskip =>
    cases tokens with
    | error e => cases hagree
    | ok ts =>
      obtain ⟨hmarks, -⟩ := hagree
      exact .complete (places_of_marks hmarks) hleft.slice?_end
        (Scanner.lastGap_of_skipBlanks_nil hskip)
  | fault hleft hskip hstart _ =>
    cases tokens with
    | ok ts => exact nomatch hagree.2
    | error e =>
      cases hagree
      obtain ⟨gap, rfl, hgap⟩ := Scanner.exists_gap hskip
      exact .fault (hleft.slice? hstart) hgap (restAt_ok hstart)

end

end Cursor

end LinkedRaces
