import LinkedRaces.Proofs.Lexical.Ending

/-!
Texts of which more follows. What the scanners take from a text they take also when a blank stands
behind it, so that a text with tokens can be put before a line break: its own tokens come first,
then those of the lines that follow. What stands between tokens are gaps: blanks, and comments that
reach from a `#` to the end of their line. A comment on the last line has no line break behind it.
-/

namespace LinkedRaces

def Token.Unsigned : Token → Prop
  | .integer _ | .decimal _ | .double _ | .mark .plus | .mark .minus => False
  | _ => True

namespace Scanner

theorem tokenAfter_append {comparing afterValue : Bool} {c : Char} {rest rest' s : List Char}
    {t : Token} (h : tokenAfter comparing afterValue c rest = .ok (t, rest')) (hs : Separated s) :
    tokenAfter comparing afterValue c (rest ++ s) = .ok (t, rest' ++ s) := by
  refine tokenAfter_append_ends h (ends_of_separated hs) (fun _ d hd => ?_) fun _ _ hnone => ?_
  · refine ne_of_separated ?_ hs
    cases hstart : start c <;> rw [hstart] at hd <;> cases hd <;> decide
  · rw [reference?_append_separated rest hs, hnone, Option.map_none]

theorem not_unsigned_of_sign {comparing afterValue : Bool} {c : Char} {rest rest' : List Char}
    {t : Token} (hc : start c = .sign)
    (h : tokenAfter comparing afterValue c rest = .ok (t, rest')) : ¬ t.Unsigned := by
  simp only [tokenAfter, hc] at h
  split at h
  · simp only [Except.ok.injEq, number] at h
    obtain ⟨rfl, -⟩ := Prod.mk.inj h
    split
    · exact id
    · split <;> exact id
  · simp only [Except.ok.injEq, Prod.mk.injEq] at h
    obtain ⟨rfl, -⟩ := h
    unfold signMark
    split <;> exact id

theorem skipFrom_line_of_nil {inComment : Bool} {cs : List Char} (h : skipFrom inComment cs = [])
    (more : List Char) : skipFrom inComment (cs ++ '\n' :: more) = skipFrom false more := by
  fun_induction skipFrom inComment cs with
  | case1 inComment =>
    cases inComment with
    | true => simp [skipFrom]
    | false => simp [skipFrom, show Text.isBlank '\n' by decide]
  | case2 c cs ih => simpa [skipFrom] using ih h
  | case3 c cs hblank ih => simpa [skipFrom, hblank] using ih h
  | case4 cs hblank ih => simpa [skipFrom, hblank] using ih h
  | case5 => cases h

theorem skipFrom_append_of_cons {inComment : Bool} {c : Char} {cs rest : List Char}
    (h : skipFrom inComment cs = c :: rest) (s : List Char) :
    skipFrom inComment (cs ++ s) = c :: (rest ++ s) := by
  fun_induction skipFrom inComment cs with
  | case1 => cases h
  | case2 d cs ih => simpa [skipFrom] using ih h
  | case3 d cs hblank ih => simpa [skipFrom, hblank] using ih h
  | case4 cs hblank ih => simpa [skipFrom, hblank] using ih h
  | case5 d cs hblank hhash =>
    obtain ⟨rfl, rfl⟩ := List.cons.inj h
    simp [skipFrom, hblank, hhash]

end Scanner

/-- Blanks and whole comments. -/
inductive Gap : List Char → Prop
  | nil : Gap []
  | blank {c : Char} {gap : List Char} (h : Text.isBlank c) (behind : Gap gap) : Gap (c :: gap)
  | comment {body gap : List Char} (h : '\n' ∉ body) (behind : Gap gap) :
    Gap ('#' :: (body ++ '\n' :: gap))

/-- What may stand at the end of a text: a gap, or one that only lacks its last line break. -/
def LastGap (cs : List Char) : Prop := Gap (cs ++ ['\n'])

theorem gap_of_blanks {cs : List Char} (h : ∀ c ∈ cs, Text.isBlank c) : Gap cs := by
  induction cs with
  | nil => exact .nil
  | cons c cs ih =>
    obtain ⟨hc, hcs⟩ := List.forall_mem_cons.1 h
    exact .blank hc (ih hcs)

theorem Gap.append {gap gap' : List Char} (h : Gap gap) (h' : Gap gap') : Gap (gap ++ gap') := by
  induction h with
  | nil => exact h'
  | blank hc _ ih => exact .blank hc ih
  | comment hbody _ ih =>
    rw [List.cons_append, List.append_assoc]
    exact .comment hbody ih

namespace Scanner

theorem skipFrom_comment {body : List Char} (h : '\n' ∉ body) (rest : List Char) :
    skipFrom true (body ++ '\n' :: rest) = skipFrom false rest := by
  induction body with
  | nil => rfl
  | cons c body ih =>
    simp only [List.mem_cons, not_or] at h
    have hc : (c != '\n') = true := by simpa [bne_iff_ne] using Ne.symm h.1
    rw [List.cons_append, skipFrom, hc, ih h.2]

theorem skipBlanks_append {gap : List Char} (h : Gap gap) (rest : List Char) :
    skipBlanks (gap ++ rest) = skipBlanks rest := by
  unfold skipBlanks
  induction h with
  | nil => rfl
  | blank hblank _ ih => rw [List.cons_append, skipFrom, if_pos hblank, ih]
  | comment hbody _ ih =>
    rw [List.cons_append, List.append_assoc, List.cons_append, skipFrom, if_neg (by decide),
      if_pos rfl, skipFrom_comment hbody, ih]

/-- A gap, or what is left of a comment and a gap behind it. -/
def GapFrom (inComment : Bool) (gap : List Char) : Prop :=
  if inComment then ∃ body behind, gap = body ++ '\n' :: behind ∧ '\n' ∉ body ∧ Gap behind
  else Gap gap

theorem GapFrom.cons {c : Char} {gap : List Char} (h : GapFrom (c != '\n') gap) :
    GapFrom true (c :: gap) := by
  by_cases hc : c = '\n'
  · subst hc
    exact ⟨[], gap, rfl, List.not_mem_nil, h⟩
  · rw [bne_iff_ne.2 hc] at h
    obtain ⟨body, behind, rfl, hbody, hgap⟩ := h
    exact ⟨c :: body, behind, rfl, by simpa [hbody] using Ne.symm hc, hgap⟩

theorem exists_gapFrom {inComment : Bool} {cs rest : List Char} {c : Char}
    (h : skipFrom inComment cs = c :: rest) : ∃ gap, cs = gap ++ c :: rest ∧ GapFrom inComment gap := by
  fun_induction skipFrom inComment cs with
  | case1 => cases h
  | case2 d cs ih =>
    obtain ⟨gap, rfl, hgap⟩ := ih h
    exact ⟨d :: gap, rfl, hgap.cons⟩
  | case3 d cs hblank ih =>
    obtain ⟨gap, rfl, hgap⟩ := ih h
    exact ⟨d :: gap, rfl, Gap.blank hblank hgap⟩
  | case4 cs hblank ih =>
    obtain ⟨gap, rfl, body, behind, rfl, hbody, hgap⟩ := ih h
    exact ⟨'#' :: (body ++ '\n' :: behind), rfl, Gap.comment hbody hgap⟩
  | case5 d cs hblank hhash =>
    obtain ⟨rfl, rfl⟩ := List.cons.inj h
    exact ⟨[], rfl, Gap.nil⟩

theorem exists_gap {cs rest : List Char} {c : Char} (h : skipBlanks cs = c :: rest) :
    ∃ gap, cs = gap ++ c :: rest ∧ Gap gap :=
  exists_gapFrom h

theorem lastGap_of_skipBlanks_nil {cs : List Char} (h : skipBlanks cs = []) : LastGap cs := by
  -- with a line break and a letter behind it, the text has a gap in front of the letter
  have hskip : skipBlanks (cs ++ '\n' :: ['a']) = ['a'] :=
    (skipFrom_line_of_nil h ['a']).trans (skipBlanks_of_start (by decide) [])
  obtain ⟨gap, heq, hgap⟩ := exists_gap hskip
  have heq' : cs ++ ['\n'] ++ ['a'] = gap ++ ['a'] := by simpa using heq
  rwa [LastGap, List.append_cancel_right heq']

end Scanner

namespace Tokenizer

open Scanner (skipBlanks tokenAfter)

variable {x : Context} {ts : List Token}

theorem kinds_of_skipBlanks_nil {cs : List Char} (h : skipBlanks cs = []) : kinds x cs = .ok [] :=
  (kinds_congr h).trans (kinds_nil x)

theorem exists_tokenAfter {c : Char} {cs rest : List Char} (hcs : skipBlanks cs = c :: rest)
    (h : kinds x cs = .ok ts) :
    ∃ t us rest', tokenAfter x.compares x.afterValue c rest = .ok (t, rest') ∧
      kinds (x.next t) rest' = .ok us ∧ ts = t :: us := by
  have hcompares : (decide (0 < x.depth) && x.afterValue) = x.compares := rfl
  rw [kinds, tokensFrom_of_skipBlanks_cons hcs, hcompares] at h
  cases htoken : tokenAfter x.compares x.afterValue c rest with
  | error fault => simp [htoken, Except.map] at h
  | ok r =>
    obtain ⟨t, rest'⟩ := r
    refine ⟨t, ?_⟩
    simp only [htoken] at h
    cases hrest : tokensFrom (depthAfter x.depth t) t.endsValue rest' with
    | error e => simp [hrest, Except.map] at h
    | ok ls =>
      refine ⟨ls.map Located.token, rest', rfl, ?_, ?_⟩
      · simp [kinds, Context.next, hrest, Except.map]
      · simpa [hrest, Except.map, eq_comm] using h

theorem kinds_line {x : Context} {cs : List Char} {ts : List Token} (h : kinds x cs = .ok ts)
    (more : List Char) :
    kinds x (cs ++ '\n' :: more) = (kinds (x.through ts) more).map (ts ++ ·) := by
  have hbreak : Text.isBlank '\n' := by decide
  cases hcs : skipBlanks cs with
  | nil =>
    obtain rfl : [] = ts := Except.ok.inj ((kinds_of_skipBlanks_nil hcs).symm.trans h)
    rw [kinds_congr (Scanner.skipFrom_line_of_nil hcs more)]
    simp only [Context.through_nil, List.nil_append]
    cases kinds x more <;> rfl
  | cons c rest =>
    obtain ⟨t, us, rest', htoken, hus, rfl⟩ := exists_tokenAfter hcs h
    have hstart := Scanner.start_of_tokenAfter htoken
    have hlt : rest'.length < cs.length := by
      have h₁ := Scanner.length_skipBlanks_le cs
      have h₂ := Scanner.length_tokenAfter_le htoken
      simp only [hcs, List.length_cons] at h₁
      omega
    have hmore : skipBlanks (cs ++ '\n' :: more) = skipBlanks (c :: (rest ++ '\n' :: more)) := by
      rw [Scanner.skipBlanks_of_start hstart]
      exact Scanner.skipFrom_append_of_cons hcs _
    have hfirst := Scanner.tokenAfter_append htoken (separated_cons hbreak more)
    rw [kinds_congr hmore, kinds_cons hfirst, kinds_line hus more, Context.through_cons]
    cases kinds ((x.next t).through us) more <;> rfl
termination_by cs.length

theorem kinds_afterValue {afterValue : Bool} {cs : List Char}
    (h : kinds ⟨0, afterValue⟩ cs = .ok ts) (hsign : ∀ t ∈ ts.head?, t.Unsigned)
    (afterValue' : Bool) :
    kinds ⟨0, afterValue'⟩ cs = .ok ts := by
  cases hcs : skipBlanks cs with
  | nil =>
    obtain rfl : [] = ts := Except.ok.inj ((kinds_of_skipBlanks_nil hcs).symm.trans h)
    exact kinds_of_skipBlanks_nil hcs
  | cons c rest =>
    obtain ⟨t, us, rest', htoken, hus, rfl⟩ := exists_tokenAfter hcs h
    have hstart := Scanner.start_of_tokenAfter htoken
    have ht : t.Unsigned := hsign t rfl
    have htoken' : tokenAfter false afterValue' c rest = .ok (t, rest') := by
      unfold tokenAfter at htoken ⊢
      cases hc : Scanner.start c with
      | sign => exact absurd ht (Scanner.not_unsigned_of_sign hc htoken)
      | other => exact absurd hc hstart
      | _ => simpa [hc, Context.compares] using htoken
    have hskip : skipBlanks cs = skipBlanks (c :: rest) :=
      hcs.trans (Scanner.skipBlanks_of_start hstart rest).symm
    rw [kinds_congr hskip, kinds_cons (x := ⟨0, afterValue'⟩) htoken']
    have hnext : Context.next ⟨0, afterValue'⟩ t = Context.next ⟨0, afterValue⟩ t := rfl
    rw [hnext, hus]
    rfl

end Tokenizer

end LinkedRaces
