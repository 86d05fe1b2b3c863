import LinkedRaces.Proofs.Lexical.Cursor.Basic
import LinkedRaces.Proofs.Lexical.Numerals
import LinkedRaces.Proofs.Lexical.Unnoticed

/-!
The cursor and the scanners of lists side by side. At a position from which on a list is left, each
scan of the cursor returns what the scanner takes from that list, and stands where the rest of it
is left. It goes astray nowhere.
-/

namespace LinkedRaces.Cursor

open Text (RestAt)

variable {α β : Type} {text cs : List Char} {pos start : Nat} {c : Char}

/-- A scan returns `a` and leaves the cursor where `rest` is left. -/
def Yields (text : List Char) (r : Except Halt (α × Nat)) (a : α) (rest : List Char) : Prop :=
  ∃ pos, r = .ok (a, pos) ∧ RestAt text pos rest

/-- A scan does what a scanner does, whose faults are about what begins with `whole`. -/
def Agrees (text whole : List Char) :
    Except LexicalFault (α × List Char) → Except Halt (α × Nat) → Prop
  | .ok (a, rest), r => Yields text r a rest
  | .error f, r => r = .error (.fault ⟨f, whole⟩)

theorem Agrees.map {whole : List Char} {r : Except LexicalFault (α × List Char)} {m : Scan α}
    (h : Agrees text whole r (m pos)) (f : α → β) :
    Agrees text whole (do let (a, rest) ← r; .ok (f a, rest))
      ((do let a ← m; return f a : Scan β) pos) := by
  cases r with
  | error e => exact bind_error h
  | ok r =>
    obtain ⟨p, hp, hrest⟩ := h
    exact ⟨p, by rw [bind_ok hp]; rfl, hrest⟩

theorem behindBlanks_nil (h : RestAt text pos []) (inComment : Bool) :
    behindBlanks text inComment pos = .ok pos := by
  rw [behindBlanks]
  split <;> rename_i heq <;> rw [restAt_ok h] at heq <;> cases heq

theorem behindBlanks_cons (h : RestAt text pos (c :: cs)) (inComment : Bool) :
    behindBlanks text inComment pos =
      if inComment then behindBlanks text (c != '\n') (pos + c.utf8Size)
      else if Text.isBlank c then behindBlanks text false (pos + c.utf8Size)
      else if c = '#' then behindBlanks text true (pos + c.utf8Size)
      else .ok pos := by
  rw [behindBlanks]
  split <;> rename_i heq <;> rw [restAt_ok h] at heq <;> cases heq
  rfl

theorem behindBlanks_ok (h : RestAt text pos cs) (inComment : Bool) :
    ∃ stop, behindBlanks text inComment pos = .ok stop ∧
      RestAt text stop (Scanner.skipFrom inComment cs) := by
  fun_induction Scanner.skipFrom inComment cs generalizing pos with
  | case1 inComment => exact ⟨pos, behindBlanks_nil h inComment, h⟩
  | case2 c cs ih =>
    rw [behindBlanks_cons h, if_pos rfl]
    exact ih h.cons
  | case3 c cs hblank ih =>
    rw [behindBlanks_cons h, if_neg Bool.false_ne_true, if_pos hblank]
    exact ih h.cons
  | case4 cs hblank ih =>
    rw [behindBlanks_cons h, if_neg Bool.false_ne_true, if_neg hblank, if_pos rfl]
    exact ih h.cons
  | case5 c cs hblank hhash =>
    rw [behindBlanks_cons h, if_neg Bool.false_ne_true, if_neg hblank, if_neg hhash]
    exact ⟨pos, rfl, h⟩

theorem behindRun_ok (p : Char → Bool) (h : RestAt text pos cs) :
    ∃ stop, behindRun text p pos = .ok stop ∧ RestAt text stop (cs.dropWhile p) := by
  induction cs generalizing pos with
  | nil =>
    refine ⟨pos, ?_, h⟩
    rw [behindRun]
    split <;> rename_i heq <;> rw [restAt_ok h] at heq <;> cases heq
  | cons c cs ih =>
    have heq : behindRun text p pos = if p c then behindRun text p (pos + c.utf8Size) else .ok pos := by
      rw [behindRun]
      split <;> rename_i heq <;> rw [restAt_ok h] at heq <;> cases heq
      rfl
    rw [heq]
    cases hc : p c with
    | true =>
      rw [if_pos rfl, List.dropWhile_cons_of_pos hc]
      exact ih h.cons
    | false =>
      rw [if_neg Bool.false_ne_true, List.dropWhile_cons_of_neg (by simp [hc])]
      exact ⟨pos, rfl, h⟩

theorem run_ok (p : Char → Bool) (h : RestAt text pos cs) :
    Yields text (run text p pos) (cs.takeWhile p) (cs.dropWhile p) := by
  obtain ⟨stop, hstop, hrest⟩ := behindRun_ok p h
  refine ⟨stop, ?_, hrest⟩
  rw [← List.takeWhile_append_dropWhile (p := p) (l := cs)] at h
  rw [run, bind_get, bind_lift hstop, bind_ok (moveTo_ok hrest), cut_ok h hrest]
  rfl

theorem giveBackDots_ok {word rest : List Char} (h : RestAt text start (word.reverse ++ rest))
    (hpos : RestAt text pos rest) :
    Yields text (giveBackDots text word pos) (word.dropWhile (· == '.')).reverse
      ((word.takeWhile (· == '.')).reverse ++ rest) := by
  induction word generalizing pos rest with
  | nil => exact ⟨pos, rfl, hpos⟩
  | cons c word ih =>
    by_cases hc : c = '.'
    · subst hc
      rw [List.reverse_cons, List.append_assoc] at h
      have hdot : RestAt text (start + Text.utf8Size word.reverse) ('.' :: rest) := h.append
      have hback : pos - 1 = start + Text.utf8Size word.reverse := by
        rw [hpos.pos_eq hdot.cons]
        exact Nat.add_sub_cancel ..
      obtain ⟨pos', hword, hrest⟩ := ih h (hback ▸ hdot)
      refine ⟨pos', ?_, by simpa using hrest⟩
      rw [giveBackDots, if_pos rfl, bind_get, bind_ok (moveTo_ok (hback ▸ hdot)), hword]
      simp
    · refine ⟨pos, ?_, by simpa [hc] using hpos⟩
      rw [giveBackDots, if_neg hc]
      simp [hc]
      rfl

theorem dottedRun_ok (p : Char → Bool) (h : RestAt text pos cs) :
    Yields text (dottedRun text p pos) (Scanner.dottedRun p cs) (Scanner.afterRun p cs) := by
  obtain ⟨stop, hrun, hstop⟩ := run_ok p h
  have hstart : RestAt text pos ((cs.takeWhile p).reverse.reverse ++ cs.dropWhile p) := by
    rwa [List.reverse_reverse, List.takeWhile_append_dropWhile]
  obtain ⟨pos', hback, hrest⟩ := giveBackDots_ok hstart hstop
  have hafter : Scanner.afterRun p cs =
      ((cs.takeWhile p).reverse.takeWhile (· == '.')).reverse ++ cs.dropWhile p := by
    obtain ⟨dots, htake, -, hafter, -⟩ := Scanner.exists_dots p cs
    have hsplit : cs.takeWhile p = Scanner.dottedRun p cs ++
        ((cs.takeWhile p).reverse.takeWhile (· == '.')).reverse := by
      rw [Scanner.dottedRun, ← List.reverse_append, List.takeWhile_append_dropWhile,
        List.reverse_reverse]
    rw [hafter, List.append_cancel_left (htake.symm.trans hsplit)]
  refine ⟨pos', ?_, hafter ▸ hrest⟩
  rw [dottedRun, bind_ok hrun, hback]
  rfl

theorem word_ok (h : RestAt text pos cs) {t : Token} {after : List Char}
    (hword : Scanner.word cs = (t, after)) : Yields text (word text pos) t after := by
  obtain ⟨stop, hlabel, hstop⟩ := dottedRun_ok Scanner.isWordChar h
  rw [word, bind_ok hlabel, bind_ok (peek_ok hstop)]
  unfold Scanner.word at hword
  split at hword
  next rest hrest =>
    obtain ⟨rfl, rfl⟩ := Prod.mk.inj hword
    rw [hrest] at hstop ⊢
    obtain ⟨pos', hname, hpos'⟩ := dottedRun_ok Scanner.isLocalChar hstop.cons
    refine ⟨pos', ?_, hpos'⟩
    rw [List.head?_cons, if_pos rfl, bind_ok (bump_cons hstop), bind_ok hname]
    rfl
  next hcolon =>
    obtain ⟨rfl, rfl⟩ := Prod.mk.inj hword
    refine ⟨stop, ?_, hstop⟩
    rw [if_neg]
    · rfl
    · intro hhead
      obtain ⟨rest, hrest⟩ := List.head?_eq_some_iff.1 hhead
      exact hcolon rest hrest

theorem skipSign_ok {sign : List Char} (hsign : IsSign sign) (hcs : cs.head?.any isSign = false)
    (h : RestAt text pos (sign ++ cs)) : Yields text (skipSign text pos) () cs := by
  have hone {s : Char} (hs : isSign s) (h : RestAt text pos (s :: cs)) :
      Yields text (skipSign text pos) () cs := by
    refine ⟨pos + s.utf8Size, ?_, h.cons⟩
    rw [skipSign, bind_ok (peek_ok h), List.head?_cons, Option.any_some, if_pos hs,
      bind_ok (bump_cons h)]
    rfl
  rcases hsign with rfl | rfl | rfl
  · refine ⟨pos, ?_, h⟩
    rw [skipSign, bind_ok (peek_ok h), List.nil_append, hcs]
    rfl
  · exact hone rfl h
  · exact hone rfl h

theorem digits_ok {ds rest : List Char} (h : RestAt text pos (ds ++ rest))
    (hds : ∀ c ∈ ds, c.isDigit) (hrest : ∀ c ∈ rest.head?, c.isDigit = false) :
    Yields text (run text Char.isDigit pos) ds rest := by
  have hrun := run_ok Char.isDigit h
  rwa [Scanner.takeWhile_append_stop hds hrest, Scanner.dropWhile_append_stop hds hrest] at hrun

theorem any_getElem?_zero (cs : List Char) :
    cs[0]?.any Char.isDigit = Scanner.beginsWithDigit cs := by
  cases cs <;> rfl

theorem beginsWithDigit_of_isDigits {ds : List Char} (h : IsDigits ds) (rest : List Char) :
    Scanner.beginsWithDigit (ds ++ rest) := by
  obtain ⟨hne, hds⟩ := h
  cases ds with
  | nil => exact absurd rfl hne
  | cons d ds => exact hds d List.mem_cons_self

theorem not_isSign_of_beginsWithDigit (h : Scanner.beginsWithDigit cs) :
    cs.head?.any isSign = false := by
  cases cs with
  | nil => rfl
  | cons d cs =>
    have hd : d.isDigit = true := h
    have hplus : d ≠ '+' := by rintro rfl; revert hd; decide
    have hminus : d ≠ '-' := by rintro rfl; revert hd; decide
    simp [isSign, hplus, hminus]

theorem fraction_ne_nil_of_next (h : fractionNext cs) : Scanner.fraction cs ≠ [] := by
  cases cs with
  | nil => cases h
  | cons c cs =>
    simp only [fractionNext, List.head?_cons, List.getElem?_cons_succ, any_getElem?_zero,
      Bool.and_eq_true, beq_iff_eq, Option.some.injEq] at h
    obtain ⟨rfl, hdigit⟩ := h
    exact Scanner.fraction_ne_nil hdigit

theorem skipFraction_ok (h : RestAt text pos cs) :
    Yields text (skipFraction text pos) (!(Scanner.fraction cs).isEmpty)
      (cs.drop (Scanner.fraction cs).length) := by
  rw [skipFraction, bind_ok (rest_ok h)]
  by_cases hnone : Scanner.fraction cs = []
  · rw [if_neg (mt fraction_ne_nil_of_next (not_not.2 hnone)), hnone]
    exact ⟨pos, rfl, h⟩
  · obtain ⟨hfraction, rest, hleaves⟩ := (Scanner.fraction_cases cs).resolve_left hnone
    obtain ⟨ds, hpart, hds⟩ := hfraction.resolve_left hnone
    rw [hpart] at hleaves ⊢
    obtain ⟨rfl, hstop⟩ := hleaves
    have hnext : fractionNext ('.' :: ds ++ rest) = true := by
      simp [fractionNext, any_getElem?_zero, beginsWithDigit_of_isDigits hds]
    obtain ⟨pos', hrun, hpos'⟩ := digits_ok h.cons hds.2 hstop
    rw [List.drop_left]
    refine ⟨pos', ?_, hpos'⟩
    rw [if_pos hnext, bind_ok (bump_cons h), bind_ok hrun]
    rfl

theorem exponent_ne_nil_of_next (h : exponentNext cs) : Scanner.exponent cs ≠ [] := by
  cases cs with
  | nil => cases h
  | cons e cs =>
    simp only [exponentNext, List.head?_cons, Option.any_some, List.getElem?_cons_succ,
      any_getElem?_zero, Bool.and_eq_true, Bool.or_eq_true, beq_iff_eq] at h
    obtain ⟨he, hnext⟩ := h
    have hdigits : Scanner.exponentDigits cs ≠ [] := by
      cases cs with
      | nil => simp [Scanner.beginsWithDigit] at hnext
      | cons d cs =>
        simp only [Scanner.exponentDigits]
        split
        next => exact List.cons_ne_nil _ _
        next hd =>
          obtain ⟨hsign, hdigit⟩ := hnext.resolve_left hd
          simp only [List.getElem?_cons_zero, Option.any_some, isSign, Bool.or_eq_true, beq_iff_eq,
            List.getElem?_cons_succ, any_getElem?_zero] at hsign hdigit
          rw [if_pos hsign]
          split
          next hnone => exact absurd hnone (Scanner.takeWhile_ne_nil_of_beginsWithDigit hdigit)
          next => exact List.cons_ne_nil _ _
    rw [Scanner.exponent, if_pos he]
    split
    next hnone => exact absurd hnone hdigits
    next => exact List.cons_ne_nil _ _

theorem skipExponent_ok (h : RestAt text pos cs) :
    Yields text (skipExponent text pos) (!(Scanner.exponent cs).isEmpty)
      (cs.drop (Scanner.exponent cs).length) := by
  rw [skipExponent, bind_ok (rest_ok h)]
  by_cases hnone : Scanner.exponent cs = []
  · rw [if_neg (mt exponent_ne_nil_of_next (not_not.2 hnone)), hnone]
    exact ⟨pos, rfl, h⟩
  · obtain ⟨hexponent, rest, hleaves⟩ := (Scanner.exponent_cases cs).resolve_left hnone
    obtain ⟨e, sign, ds, hpart, he, hsign, hds⟩ := hexponent.resolve_left hnone
    rw [hpart] at hleaves ⊢
    obtain ⟨rfl, hstop⟩ := hleaves
    have hdigit := beginsWithDigit_of_isDigits hds rest
    have hnext : exponentNext (e :: (sign ++ ds) ++ rest) = true := by
      rcases hsign with rfl | rfl | rfl <;>
        simp [exponentNext, he, isSign, any_getElem?_zero, hdigit]
    rw [List.cons_append, List.append_assoc] at h
    obtain ⟨pos₁, hskip, hpos₁⟩ := skipSign_ok hsign (not_isSign_of_beginsWithDigit hdigit) h.cons
    obtain ⟨pos₂, hrun, hpos₂⟩ := digits_ok hpos₁ hds.2 hstop
    rw [List.drop_left]
    refine ⟨pos₂, ?_, hpos₂⟩
    rw [if_pos hnext, bind_ok (bump_cons h), bind_ok hskip, bind_ok hrun]
    rfl

theorem number_ok {sign : List Char} (hsign : IsSign sign) (hcs : cs.head?.any isSign = false)
    (h : RestAt text pos (sign ++ cs)) {t : Token} {after : List Char}
    (hnumber : Scanner.number sign cs = (t, after)) : Yields text (number text pos) t after := by
  obtain ⟨pos₁, hskip, hpos₁⟩ := skipSign_ok hsign hcs h
  obtain ⟨pos₂, hrun, hpos₂⟩ := run_ok Char.isDigit hpos₁
  have hwhole : cs = cs.takeWhile Char.isDigit ++ cs.dropWhile Char.isDigit :=
    List.takeWhile_append_dropWhile.symm
  simp only [Scanner.number, Prod.mk.injEq] at hnumber
  obtain ⟨rfl, rfl⟩ := hnumber
  generalize cs.takeWhile Char.isDigit = whole, cs.dropWhile Char.isDigit = left₁ at *
  obtain ⟨pos₃, hfraction, hpos₃⟩ := skipFraction_ok hpos₂
  have hleft₁ := (Scanner.Leaves.drop (.inl rfl) (Scanner.fraction_cases left₁)).2.1
  generalize Scanner.fraction left₁ = frac at *
  generalize left₁.drop frac.length = left₂ at *
  obtain ⟨pos₄, hexponent, hpos₄⟩ := skipExponent_ok hpos₃
  have hleft₂ := (Scanner.Leaves.drop (.inl rfl) (Scanner.exponent_cases left₂)).2.1
  generalize Scanner.exponent left₂ = exp at *
  generalize left₂.drop exp.length = left₃ at *
  have hparts : sign ++ cs = sign ++ whole ++ frac ++ exp ++ left₃ := by
    rw [hwhole, hleft₁, hleft₂]
    simp
  refine ⟨pos₄, ?_, hpos₄⟩
  rw [number, bind_get, bind_ok hskip, bind_ok hrun, bind_ok hfraction, bind_ok hexponent,
    bind_get, bind_lift (cut_ok (hparts ▸ h) hpos₄)]
  cases exp <;> cases frac <;> rfl

theorem reference?_eq (cs : List Char) :
    Scanner.reference? cs =
      match cs.dropWhile Scanner.isReferenceChar with
      | '>' :: rest => some (cs.takeWhile Scanner.isReferenceChar, rest)
      | _ => none := by
  induction cs with
  | nil => rfl
  | cons c cs ih =>
    rw [Scanner.reference?]
    split
    next hclose =>
      subst hclose
      have hstop : Scanner.isReferenceChar '>' = false := by decide
      rw [List.dropWhile_cons_of_neg (by simp [hstop]), List.takeWhile_cons_of_neg (by simp [hstop])]
      rfl
    next hclose =>
      cases hend : Scanner.endsReference c with
      | true =>
        have hstop : Scanner.isReferenceChar c = false := by simp [Scanner.isReferenceChar, hend]
        rw [List.dropWhile_cons_of_neg (by simp [hstop])]
        simp [hclose]
      | false =>
        have hgo : Scanner.isReferenceChar c := by simp [Scanner.isReferenceChar, hend, hclose]
        rw [List.dropWhile_cons_of_pos hgo, List.takeWhile_cons_of_pos hgo, ih,
          if_neg Bool.false_ne_true]
        cases cs.dropWhile Scanner.isReferenceChar with
        | nil => rfl
        | cons d rest => by_cases hd : d = '>' <;> simp [hd]

theorem reference?_ok (h : RestAt text pos ('<' :: cs)) :
    match Scanner.reference? cs with
    | some (body, after) => Yields text (reference? text pos) (some body) after
    | none => reference? text pos = .ok (none, pos) := by
  have hbody : RestAt text (pos + 1) cs := h.cons
  have hsplit := hbody
  rw [← List.takeWhile_append_dropWhile (p := Scanner.isReferenceChar) (l := cs)] at hsplit
  have hstop := hsplit.append
  rw [reference?_eq, reference?, bind_get, bind_lift (restAt_ok hbody), bind_lift (restAt_ok hstop)]
  split
  next body after heq =>
    split at heq
    next rest hdrop =>
      obtain ⟨rfl, rfl⟩ := Prod.mk.inj (Option.some.inj heq)
      rw [hdrop] at hstop ⊢
      have hclose : RestAt text (_ + 1) rest := hstop.cons
      refine ⟨_, ?_, hclose⟩
      rw [List.head?_cons, if_pos rfl, bind_lift (cut_ok hsplit (hdrop ▸ hstop)),
        bind_ok (moveTo_ok hclose)]
      rfl
    next => cases heq
  next heq =>
    split at heq
    next => cases heq
    next hopen =>
      rw [if_neg]
      · rfl
      · intro hhead
        obtain ⟨rest, hrest⟩ := List.head?_eq_some_iff.1 hhead
        exact hopen rest hrest

theorem utf8Size_of_hexadecimal {ds : List Char} {n : Nat} (h : Number.Hexadecimal ds n) :
    Text.utf8Size ds = ds.length := by
  have hdigit {c : Char} {v : Nat} (h : Number.HexDigit c v) : c.utf8Size = 1 := by
    have hascii : (Number.hexDigits "abcdef" ++ Number.hexDigits "ABCDEF").all
        (Char.utf8Size · == 1) := by
      decide
    have hmem : c ∈ Number.hexDigits "abcdef" ++ Number.hexDigits "ABCDEF" := by
      refine List.mem_append.2 (h.imp ?_ ?_) <;> exact List.mem_of_getElem?
    simpa using List.all_eq_true.1 hascii c hmem
  obtain ⟨vs, hvs, -⟩ := h
  induction hvs with
  | nil => rfl
  | cons hd _ ih => rw [Text.utf8Size_cons, hdigit hd, ih, List.length_cons, Nat.add_comm]

theorem utf8Size_of_hexNumber? {ds : List Char} {n : Nat} (h : Scanner.hexNumber? ds = some n) :
    Text.utf8Size ds = ds.length := by
  unfold Scanner.hexNumber? at h
  split at h
  next d ds =>
    have hsize := utf8Size_of_hexadecimal (Number.readHex?_eq_some_iff.1 h).2
    rw [Text.utf8Size_cons, hsize, List.length_cons, Nat.add_comm]
    rfl
  next => exact utf8Size_of_hexadecimal (Number.readHex?_eq_some_iff.1 h).2

theorem hexNumber?_of_numbered {digits : Nat} (hdigits : 2 ≤ digits) {e : Char}
    (h : Scanner.numbered digits cs = .ok e) :
    (cs.take digits).length = digits ∧ Scanner.hexNumber? (cs.take digits) = some e.toNat := by
  obtain ⟨hle, hsigned⟩ := (Scanner.numbered_eq_ok_iff hdigits).1 h
  have hlength : (cs.take digits).length = digits := List.length_take_of_le hle
  exact ⟨hlength, (Scanner.hexNumber?_eq_some_iff (by omega)).2 hsigned⟩

theorem utf8Size_take_of_numbered {digits : Nat} (hdigits : 2 ≤ digits) {e : Char}
    (h : Scanner.numbered digits cs = .ok e) : Text.utf8Size (cs.take digits) = digits := by
  obtain ⟨hlength, hn⟩ := hexNumber?_of_numbered hdigits h
  exact (utf8Size_of_hexNumber? hn).trans hlength

theorem named?_eq_some_iff {digits : Nat} (hdigits : 2 ≤ digits) {e : Char} :
    named? digits cs = some e ↔ Scanner.numbered digits cs = .ok e := by
  constructor
  · intro h
    obtain ⟨hsize, hread⟩ := Option.ite_none_right_eq_some.1 h
    cases hcut : Text.cutAt? digits cs with
    | none =>
      rw [hcut] at hsize
      simp only [Option.map_none, Option.getD_none, Text.utf8Size_nil] at hsize
      omega
    | some r =>
      obtain ⟨hex, after⟩ := r
      simp only [hcut, Option.map_some, Option.getD_some] at hsize hread
      obtain ⟨rfl, -⟩ := Text.cutAt?_eq_some_iff.1 hcut
      obtain ⟨n, hn, hscalar⟩ := Option.bind_eq_some_iff.1 hread
      obtain rfl := Number.scalar?_eq_some_iff.1 hscalar
      have hlength : hex.length = digits := (utf8Size_of_hexNumber? hn).symm.trans hsize
      refine (Scanner.numbered_eq_ok_iff hdigits).2 ?_
      rw [← hlength, List.take_left, List.length_append]
      exact ⟨Nat.le_add_right _ _, (Scanner.hexNumber?_eq_some_iff (by omega)).1 hn⟩
  · intro h
    have hsize := utf8Size_take_of_numbered hdigits h
    have hcut := Text.cutAt?_append (cs.take digits) (cs.drop digits)
    rw [List.take_append_drop, hsize] at hcut
    simp [named?, hcut, hsize, (hexNumber?_of_numbered hdigits h).2, Number.scalar?_eq_some_iff]

theorem numbered_fault {digits : Nat} {f : LexicalFault}
    (h : Scanner.numbered digits cs = .error f) : f = .unicodeEscape := by
  unfold Scanner.numbered at h
  split at h
  · exact (Except.error.inj h).symm
  · split at h
    · cases h
    · exact (Except.error.inj h).symm

theorem unicode_ok {digits : Nat} (hdigits : 2 ≤ digits) {whole : List Char}
    (hstart : RestAt text start whole) (h : RestAt text pos cs) :
    Agrees text whole ((Scanner.numbered digits cs).map (·, cs.drop digits))
      (unicode text digits start pos) := by
  rw [unicode, bind_ok (rest_ok h)]
  cases hread : Scanner.numbered digits cs with
  | error f =>
    obtain rfl := numbered_fault hread
    have hnone : named? digits cs = none := by
      by_contra hsome
      obtain ⟨e, he⟩ := Option.ne_none_iff_exists'.1 hsome
      exact nomatch hread.symm.trans ((named?_eq_some_iff hdigits).1 he)
    rw [hnone]
    exact fail_ok hstart _ pos
  | ok e =>
    have hsize := utf8Size_take_of_numbered hdigits hread
    rw [← List.take_append_drop digits cs] at h
    have hrest := h.append
    rw [hsize] at hrest
    refine ⟨pos + digits, ?_, hrest⟩
    rw [(named?_eq_some_iff hdigits).2 hread]
    simp only [bind_get, bind_ok (moveTo_ok hrest)]
    rfl

theorem escape_ok {whole : List Char} (hstart : RestAt text start whole) (h : RestAt text pos cs) :
    Agrees text whole ((Scanner.escape cs).map fun r => (r.value, r.rest))
      (escape text start pos) := by
  cases cs with
  | nil =>
    rw [escape, bind_ok (bump_nil h)]
    exact fail_ok hstart _ _
  | cons c cs =>
    have hunicode {digits : Nat} (hdigits : 2 ≤ digits) (hlt) :
        Agrees text whole (((Scanner.numbered digits cs).map fun e =>
            (⟨e, cs.drop digits, hlt⟩ : Reading Char Char (c :: cs).length)).map fun r =>
          (r.value, r.rest)) (unicode text digits start (pos + c.utf8Size)) := by
      have hagrees := unicode_ok hdigits hstart h.cons
      cases hread : Scanner.numbered digits cs <;> rw [hread] at hagrees <;> exact hagrees
    rw [escape, bind_ok (bump_cons h), Scanner.escape]
    simp only
    split
    next => exact hunicode (by decide) _
    next =>
      split
      next => exact hunicode (by decide) _
      next =>
        cases Scanner.escaped? c with
        | none => exact fail_ok hstart _ _
        | some e => exact ⟨_, rfl, h.cons⟩

section

variable {quote : Char} {long : Bool} {whole : List Char}

theorem stringFrom_nil (h : RestAt text pos []) (hstart : RestAt text start whole) :
    stringFrom text quote long start pos = .error (.fault ⟨.unterminatedString, whole⟩) := by
  rw [stringFrom]
  split <;> rename_i heq <;> rw [restAt_ok h] at heq <;> cases heq
  exact fail_ok hstart _ _

theorem stringFrom_cons (h : RestAt text pos (c :: cs)) :
    stringFrom text quote long start pos =
      if long && (threeQuotes quote).isPrefixOf (c :: cs) then
        (do moveTo text (pos + 3); return []) pos
      else if c = quote && !long then (do let _ ← bump text; return []) pos
      else if (c = '\n' || c = '\r') && !long then fail text start .lineBreak pos
      else if c = '\\' then
        match escape text start (pos + c.utf8Size) with
        | .error e => .error e
        | .ok (e, pos') => (stringFrom text quote long start pos').map (Prod.map (e :: ·) id)
      else (stringFrom text quote long start (pos + c.utf8Size)).map (Prod.map (c :: ·) id) := by
  rw [stringFrom]
  split <;> rename_i heq <;> rw [restAt_ok h] at heq <;> cases heq
  cases escape text start (pos + c.utf8Size) <;> rfl

theorem Agrees.cons {r : Except LexicalFault (List Char × List Char)}
    {s : Except Halt (List Char × Nat)} (h : Agrees text whole r s) (e : Char) :
    Agrees text whole (do let (body, rest) ← r; .ok (e :: body, rest))
      (s.map (Prod.map (e :: ·) id)) := by
  cases r with
  | error f =>
    obtain rfl : s = _ := h
    rfl
  | ok r =>
    obtain ⟨p, rfl, hrest⟩ := h
    exact ⟨p, rfl, hrest⟩

theorem escaped_ok {scan : (cs : List Char) → Except LexicalFault (List Char × List Char)}
    (hstart : RestAt text start whole) (h : RestAt text pos cs)
    (hscan : ∀ p rest, rest.length < cs.length → RestAt text p rest →
      Agrees text whole (scan rest) (stringFrom text quote long start p)) :
    Agrees text whole
      (do
        let ⟨e, rest, _⟩ ← Scanner.escape cs
        let (body, rest') ← scan rest
        .ok (e :: body, rest'))
      (match escape text start pos with
        | .error e => .error e
        | .ok (e, p) => (stringFrom text quote long start p).map (Prod.map (e :: ·) id)) := by
  have hescape := escape_ok hstart h
  cases hread : Scanner.escape cs with
  | error f =>
    rw [hread] at hescape
    rw [show escape text start pos = _ from hescape]
    rfl
  | ok r =>
    rw [hread] at hescape
    obtain ⟨p, hp, hrest⟩ := hescape
    rw [hp]
    exact (hscan p r.rest r.shorter hrest).cons r.value

theorem shortString_ok {cs : List Char} {pos : Nat} (hstart : RestAt text start whole)
    (h : RestAt text pos cs) :
    Agrees text whole (Scanner.shortString quote cs) (stringFrom text quote false start pos) := by
  cases cs with
  | nil =>
    rw [Scanner.shortString]
    exact stringFrom_nil h hstart
  | cons c cs =>
    rw [stringFrom_cons h, Scanner.shortString]
    simp only [Bool.false_and, Bool.false_eq_true, if_false, Bool.not_false, Bool.and_true,
      decide_eq_true_eq, Bool.or_eq_true]
    split
    next => exact ⟨_, by rw [bind_ok (bump_cons h)]; rfl, h.cons⟩
    next =>
      split
      next => exact fail_ok hstart _ _
      next =>
        split
        next =>
          refine escaped_ok hstart h.cons fun p rest hlt hrest => ?_
          exact shortString_ok hstart hrest
        next => exact (shortString_ok hstart h.cons).cons c
termination_by cs.length
decreasing_by
  all_goals
    subst_vars
    simp only [List.length_cons]
    omega

theorem threeQuotes_isPrefixOf_iff :
    (threeQuotes quote).isPrefixOf (c :: cs) ↔ c = quote ∧ cs.take 2 = [quote, quote] :=
  List.isPrefixOf_iff_prefix.trans Scanner.three_quotes_iff.symm

theorem threeQuotes_ok {cs : List Char} (hq : Scanner.IsQuote quote) (h : RestAt text pos (quote :: cs))
    (hcs : cs.take 2 = [quote, quote]) : RestAt text (pos + 3) (cs.drop 2) := by
  have hsize : Text.utf8Size (threeQuotes quote) = 3 := by rcases hq with rfl | rfl <;> decide
  have hthree : quote :: cs = threeQuotes quote ++ cs.drop 2 := by
    rw [threeQuotes, ← hcs, List.cons_append, List.take_append_drop]
  rw [hthree] at h
  exact hsize ▸ h.append

theorem longString_ok {cs : List Char} {pos : Nat} (hq : Scanner.IsQuote quote)
    (hstart : RestAt text start whole) (h : RestAt text pos cs) :
    Agrees text whole (Scanner.longString quote cs) (stringFrom text quote true start pos) := by
  cases cs with
  | nil =>
    rw [Scanner.longString]
    exact stringFrom_nil h hstart
  | cons c cs =>
    rw [stringFrom_cons h, Scanner.longString]
    simp only [Bool.true_and, threeQuotes_isPrefixOf_iff, Bool.not_true, Bool.and_false,
      Bool.false_eq_true, if_false]
    split
    next hclose =>
      obtain ⟨rfl, htwo⟩ := hclose
      have hclose := threeQuotes_ok hq h htwo
      exact ⟨_, by rw [bind_ok (moveTo_ok hclose)]; rfl, hclose⟩
    next =>
      split
      next =>
        refine escaped_ok hstart h.cons fun p rest hlt hrest => ?_
        exact longString_ok hq hstart hrest
      next => exact (longString_ok hq hstart h.cons).cons c
termination_by cs.length
decreasing_by
  all_goals
    subst_vars
    simp only [List.length_cons]
    omega

theorem string_ok {cs : List Char} (hq : Scanner.IsQuote quote) (h : RestAt text pos (quote :: cs)) :
    Agrees text (quote :: cs) (Scanner.string quote cs) (string text quote pos) := by
  have hone : quote.utf8Size = 1 := by rcases hq with rfl | rfl <;> decide
  rw [string, bind_get, bind_ok (rest_ok h), Scanner.string, Scanner.stringBody]
  by_cases hlong : cs.take 2 = [quote, quote]
  · have hopen := threeQuotes_ok hq h hlong
    rw [threeQuotes_isPrefixOf_iff.2 ⟨rfl, hlong⟩, if_pos rfl, if_pos hlong,
      bind_ok (moveTo_ok hopen)]
    exact Agrees.map (longString_ok hq h hopen) fun value => Token.string (String.ofList value)
  · have hopen : RestAt text (pos + 1) cs := hone ▸ h.cons
    have hnot : ¬ (threeQuotes quote).isPrefixOf (quote :: cs) := fun hthree =>
      hlong (threeQuotes_isPrefixOf_iff.1 hthree).2
    rw [if_neg hnot, if_neg hlong, bind_ok (moveTo_ok hopen), Bool.eq_false_iff.2 hnot]
    exact Agrees.map (shortString_ok h hopen) fun value => Token.string (String.ofList value)

end

theorem single_ok (h : RestAt text pos (c :: cs)) (t : Token) :
    Yields text (single text t pos) t cs :=
  ⟨_, by rw [single, bind_ok (bump_cons h)]; rfl, h.cons⟩

theorem either_ok (h : RestAt text pos (c :: cs)) {second : Char} {long short : Mark} {t : Token}
    {after : List Char} (heither : Scanner.either second long short cs = (t, after)) :
    Yields text (either text second long short pos) t after := by
  rw [either, bind_ok (bump_cons h), bind_ok (peek_ok h.cons)]
  cases cs with
  | nil =>
    obtain ⟨rfl, rfl⟩ := Prod.mk.inj heither
    exact ⟨_, rfl, h.cons⟩
  | cons d cs =>
    by_cases hd : d = second
    · rw [Scanner.either, if_pos hd] at heither
      obtain ⟨rfl, rfl⟩ := Prod.mk.inj heither
      rw [List.head?_cons, if_pos (congrArg some hd)]
      exact single_ok h.cons _
    · rw [Scanner.either, if_neg hd] at heither
      obtain ⟨rfl, rfl⟩ := Prod.mk.inj heither
      rw [List.head?_cons, if_neg (by simpa using hd)]
      exact ⟨_, rfl, h.cons⟩

/-- The cursor takes a token as the scanner does, and finds the same faults. -/
theorem token_ok {comparing afterValue : Bool} (h : RestAt text pos (c :: cs)) :
    Agrees text (c :: cs) (Scanner.tokenAfter comparing afterValue c cs)
      (token text comparing afterValue c pos) := by
  have hdigit : (c :: cs)[1]?.any Char.isDigit = Scanner.beginsWithDigit cs := by
    rw [List.getElem?_cons_succ, any_getElem?_zero]
  have hnumber {sign digits : List Char} (hc : c :: cs = sign ++ digits) (hsign : IsSign sign)
      (hdigits : digits.head?.any isSign = false) :
      Yields text (number text pos) (Scanner.number sign digits).1
        (Scanner.number sign digits).2 :=
    number_ok hsign hdigits (hc ▸ h) rfl
  rw [token, bind_get]
  unfold Scanner.tokenAfter
  cases hstart : Scanner.start c with
  | angle =>
    obtain rfl : c = '<' := Scanner.begins_of_start hstart
    simp only
    cases comparing with
    | true => exact either_ok h rfl
    | false =>
      have href := reference?_ok h
      cases hread : Scanner.reference? cs with
      | none =>
        rw [hread] at href
        simp only [Bool.false_eq_true, if_false, bind_ok href]
        exact either_ok h rfl
      | some r =>
        obtain ⟨body, after⟩ := r
        rw [hread] at href
        obtain ⟨p, hp, hrest⟩ := href
        simp only [Bool.false_eq_true, if_false, bind_ok hp]
        exact ⟨p, rfl, hrest⟩
  | quote => exact string_ok (Scanner.begins_of_start hstart) h
  | sigil =>
    obtain ⟨p, hp, hrest⟩ := run_ok Scanner.isNameChar h.cons
    simp only [bind_ok (bump_cons h), bind_ok hp]
    cases hname : cs.takeWhile Scanner.isNameChar with
    | nil =>
      simp only
      split
      next => exact fail_ok h _ _
      next =>
        refine ⟨p, rfl, ?_⟩
        rwa [← List.takeWhile_append_dropWhile (p := Scanner.isNameChar) (l := cs), hname]
    | cons d name => exact ⟨p, rfl, hrest⟩
  | «at» =>
    obtain ⟨p, hp, hrest⟩ := run_ok Scanner.isTagChar h.cons
    simp only [bind_ok (bump_cons h), bind_ok hp]
    cases htag : cs.takeWhile Scanner.isTagChar with
    | nil => exact fail_ok h _ _
    | cons d tag => exact ⟨p, rfl, hrest⟩
  | underscore =>
    simp only [bind_ok (peekNth_ok h 1), List.getElem?_cons_succ]
    cases cs with
    | nil => exact fail_ok h _ _
    | cons d cs =>
      by_cases hd : d = ':'
      · subst hd
        obtain ⟨p, hp, hrest⟩ := run_ok Scanner.isNameChar h.cons.cons
        simp only [List.getElem?_cons_zero, if_true, bind_ok (bump_cons h),
          bind_ok (bump_cons h.cons), bind_ok hp]
        exact ⟨p, rfl, hrest⟩
      · simp only [List.getElem?_cons_zero, Option.some.injEq, hd, if_false]
        split
        next heq => exact absurd (List.cons.inj heq).1 hd
        next => exact fail_ok h _ _
  | digit =>
    have hc : c.isDigit := Scanner.begins_of_start hstart
    exact hnumber (show c :: cs = [] ++ c :: cs from rfl) (.inl rfl) (not_isSign_of_beginsWithDigit hc)
  | sign =>
    have hsign : IsSign [c] :=
      .inr ((Scanner.begins_of_start hstart).imp (congrArg fun c => [c]) (congrArg fun c => [c]))
    simp only [bind_ok (peekNth_ok h 1), hdigit]
    split
    next hsigned =>
      have hdigit := (Bool.and_eq_true_iff.1 hsigned).1
      exact hnumber (show c :: cs = [c] ++ cs from rfl) hsign (not_isSign_of_beginsWithDigit hdigit)
    next => exact single_ok h _
  | dot =>
    obtain rfl : c = '.' := Scanner.begins_of_start hstart
    simp only [bind_ok (peekNth_ok h 1), hdigit]
    split
    next => exact hnumber (show '.' :: cs = [] ++ '.' :: cs from rfl) (.inl rfl) rfl
    next => exact single_ok h _
  | ampersand =>
    simp only [bind_ok (bump_cons h)]
    cases cs with
    | nil =>
      rw [bind_ok (bump_nil h.cons)]
      exact fail_ok h _ _
    | cons d cs =>
      rw [bind_ok (bump_cons h.cons)]
      by_cases hd : d = '&'
      · subst hd
        exact ⟨_, rfl, h.cons.cons⟩
      · simp only [Option.some.injEq, hd, if_false]
        split
        next heq => exact absurd (List.cons.inj heq).1 hd
        next => exact fail_ok h _ _
  | caret | bang | greater | bar => exact either_ok h rfl
  | mark m => exact single_ok h _
  | word => exact word_ok h rfl
  | other => exact fail_ok h _ _

end LinkedRaces.Cursor
