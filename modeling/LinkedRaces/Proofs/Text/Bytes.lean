import LinkedRaces.Text.Basic

/-!
Byte positions in text. A text can be cut at the boundaries of its characters only, which are its
ends and the positions at which a character begins.
-/

namespace LinkedRaces.Text

variable {text before rest piece : List Char} {i j pos : Nat} {c : Char}

@[simp] theorem utf8Size_nil : utf8Size [] = 0 := rfl

@[simp] theorem utf8Size_cons (c : Char) (cs : List Char) :
    utf8Size (c :: cs) = c.utf8Size + utf8Size cs := rfl

@[simp] theorem utf8Size_append (as bs : List Char) :
    utf8Size (as ++ bs) = utf8Size as + utf8Size bs := by
  induction as with
  | nil => simp
  | cons a as ih => rw [List.cons_append, utf8Size_cons, utf8Size_cons, ih, Nat.add_assoc]

theorem utf8Size_pos {cs : List Char} (h : cs ≠ []) : 0 < utf8Size cs := by
  cases cs with
  | nil => exact absurd rfl h
  | cons c cs =>
    have := c.utf8Size_pos
    rw [utf8Size_cons]
    omega

theorem utf8Size_toList (s : String) : utf8Size s.toList = s.utf8ByteSize := by
  have hofList (cs : List Char) : (String.ofList cs).utf8ByteSize = utf8Size cs := by
    induction cs with
    | nil => rfl
    | cons c cs ih =>
      have hcons : String.ofList (c :: cs) = String.singleton c ++ String.ofList cs := by
        rw [← String.toList_inj]
        simp
      rw [hcons, String.utf8ByteSize_append, String.utf8ByteSize_singleton, ih, utf8Size_cons]
  rw [← hofList, String.ofList_toList]

/-- The text up to byte `pos` and the text from there on, if that is a boundary. -/
def cutAt? : Nat → List Char → Option (List Char × List Char)
  | 0, cs => some ([], cs)
  | _ + 1, [] => none
  | pos + 1, c :: cs =>
    if c.utf8Size ≤ pos + 1 then
      (cutAt? (pos + 1 - c.utf8Size) cs).map fun (before, rest) => (c :: before, rest)
    else none

theorem cutAt?_cons (c : Char) (cs : List Char) (pos : Nat) :
    cutAt? (c.utf8Size + pos) (c :: cs) =
      (cutAt? pos cs).map fun (before, rest) => (c :: before, rest) := by
  obtain ⟨n, hn⟩ : ∃ n, c.utf8Size + pos = n + 1 :=
    ⟨c.utf8Size + pos - 1, by have := c.utf8Size_pos; omega⟩
  rw [hn, cutAt?, if_pos (by omega), ← hn, Nat.add_sub_cancel_left]

theorem cutAt?_append (before rest : List Char) :
    cutAt? (utf8Size before) (before ++ rest) = some (before, rest) := by
  induction before with
  | nil => simp [cutAt?]
  | cons c before ih => rw [utf8Size_cons, List.cons_append, cutAt?_cons, ih, Option.map_some]

theorem cutAt?_eq_some_iff :
    cutAt? pos text = some (before, rest) ↔ text = before ++ rest ∧ utf8Size before = pos := by
  constructor
  · intro h
    fun_induction cutAt? pos text generalizing before with
    | case1 cs =>
      cases h
      exact ⟨rfl, rfl⟩
    | case2 => cases h
    | case3 pos c cs hle ih =>
      obtain ⟨⟨b, r⟩, hcut, heq⟩ := Option.map_eq_some_iff.1 h
      obtain ⟨rfl, rfl⟩ := Prod.mk.inj heq
      obtain ⟨rfl, hsize⟩ := ih hcut
      exact ⟨rfl, by rw [utf8Size_cons]; omega⟩
    | case4 => cases h
  · rintro ⟨rfl, rfl⟩
    exact cutAt?_append before rest

def slice? (i j : Nat) (text : List Char) : Option (List Char) :=
  if i ≤ j then do
    let (_, rest) ← cutAt? i text
    let (piece, _) ← cutAt? (j - i) rest
    return piece
  else none

/-- From byte `pos` on, `rest` is what is left of the text. -/
def RestAt (text : List Char) (pos : Nat) (rest : List Char) : Prop :=
  ∃ before, cutAt? pos text = some (before, rest)

theorem restAt_iff :
    RestAt text pos rest ↔ ∃ before, text = before ++ rest ∧ utf8Size before = pos := by
  simp only [RestAt, cutAt?_eq_some_iff]

theorem restAt_zero (text : List Char) : RestAt text 0 text := restAt_iff.2 ⟨[], rfl, rfl⟩

namespace RestAt

theorem append {used : List Char} (h : RestAt text pos (used ++ rest)) :
    RestAt text (pos + utf8Size used) rest := by
  obtain ⟨before, rfl, rfl⟩ := restAt_iff.1 h
  exact restAt_iff.2 ⟨before ++ used, by simp, by simp⟩

theorem cons (h : RestAt text pos (c :: rest)) : RestAt text (pos + c.utf8Size) rest := by
  have h : RestAt text pos ([c] ++ rest) := h
  simpa using h.append

theorem add_utf8Size (h : RestAt text pos rest) : pos + utf8Size rest = utf8Size text := by
  obtain ⟨before, rfl, rfl⟩ := restAt_iff.1 h
  rw [utf8Size_append]

theorem rest_eq {rest' : List Char} (h : RestAt text pos rest) (h' : RestAt text pos rest') :
    rest = rest' := by
  obtain ⟨_, hcut⟩ := h
  obtain ⟨_, hcut'⟩ := h'
  cases hcut.symm.trans hcut'
  rfl

theorem pos_eq (h : RestAt text pos rest) (h' : RestAt text j rest) : pos = j := by
  have := h.add_utf8Size
  have := h'.add_utf8Size
  omega

theorem slice? (h : RestAt text i (piece ++ rest)) (h' : RestAt text j rest) :
    slice? i j text = some piece := by
  obtain rfl : i + utf8Size piece = j := h.append.pos_eq h'
  obtain ⟨before, hcut⟩ := h
  simp [Text.slice?, hcut, cutAt?_append]

theorem slice?_end (h : RestAt text pos rest) : Text.slice? pos (utf8Size text) text = some rest := by
  have hrest : RestAt text pos (rest ++ []) := by rwa [List.append_nil]
  exact hrest.slice? (h.add_utf8Size ▸ hrest.append)

end RestAt

theorem slice?_eq_some_iff :
    slice? i j text = some piece ↔
      ∃ before rest, text = before ++ (piece ++ rest) ∧ utf8Size before = i ∧
        utf8Size (before ++ piece) = j := by
  constructor
  · intro h
    obtain ⟨hle, h⟩ := Option.ite_none_right_eq_some.1 h
    simp only [Option.bind_eq_bind, Option.bind_eq_some_iff] at h
    obtain ⟨⟨before, rest⟩, hi, ⟨piece', rest'⟩, hj, heq⟩ := h
    obtain rfl : piece' = piece := Option.some.inj heq
    obtain ⟨rfl, rfl⟩ := cutAt?_eq_some_iff.1 hi
    obtain ⟨rfl, hsize⟩ := cutAt?_eq_some_iff.1 hj
    exact ⟨before, rest', rfl, rfl, by rw [utf8Size_append]; omega⟩
  · rintro ⟨before, rest, rfl, rfl, rfl⟩
    exact RestAt.slice? (restAt_iff.2 ⟨before, rfl, rfl⟩)
      (restAt_iff.2 ⟨before ++ piece, by simp, rfl⟩)

theorem add_utf8Size_of_slice? (h : slice? i j text = some piece) : i + utf8Size piece = j := by
  obtain ⟨before, _, -, rfl, rfl⟩ := slice?_eq_some_iff.1 h
  rw [utf8Size_append]

def IsBoundary (text : List Char) (pos : Nat) : Prop := ∃ rest, RestAt text pos rest

theorem RestAt.isBoundary (h : RestAt text pos rest) : IsBoundary text pos := ⟨rest, h⟩

theorem isBoundary_of_slice? (h : slice? i j text = some piece) :
    IsBoundary text i ∧ IsBoundary text j := by
  obtain ⟨before, rest, rfl, rfl, rfl⟩ := slice?_eq_some_iff.1 h
  have hstart : RestAt (before ++ (piece ++ rest)) (utf8Size before) (piece ++ rest) :=
    restAt_iff.2 ⟨before, rfl, rfl⟩
  rw [utf8Size_append]
  exact ⟨hstart.isBoundary, hstart.append.isBoundary⟩

theorem isBoundary_iff_isValid (s : String) (pos : Nat) :
    IsBoundary s.toList pos ↔ String.Pos.Raw.IsValid s ⟨pos⟩ := by
  rw [String.Pos.Raw.isValid_iff_exists_append]
  constructor
  · rintro ⟨rest, h⟩
    obtain ⟨before, htext, rfl⟩ := restAt_iff.1 h
    refine ⟨String.ofList before, String.ofList rest, ?_, ?_⟩
    · rw [← String.toList_inj, htext]
      simp
    · rw [String.Pos.Raw.ext_iff, String.byteIdx_rawEndPos, ← utf8Size_toList,
        String.toList_ofList]
  · rintro ⟨before, rest, rfl, hpos⟩
    rw [String.Pos.Raw.ext_iff, String.byteIdx_rawEndPos, ← utf8Size_toList] at hpos
    exact ⟨rest.toList, restAt_iff.2 ⟨before.toList, by simp, hpos.symm⟩⟩

end LinkedRaces.Text
