import LinkedRaces.Graph.Writable
import LinkedRaces.Proofs.Lexical.Spelling
import LinkedRaces.Proofs.Rdf.Literal
import LinkedRaces.Proofs.Text.Blank

/-! What the check of the writers lets pass, and that it can be written and read. -/

namespace LinkedRaces

def unwritableRanges : List (Nat × Nat) := [
  (0, 32), (34, 34), (60, 60), (62, 62), (92, 92), (94, 94), (96, 96), (123, 125), (127, 160),
  (5760, 5760), (8192, 8202), (8232, 8233), (8239, 8239), (8287, 8287), (12288, 12288)]

theorem inRanges_of_isUnwritable {c : Char} (h : isUnwritable c) :
    Text.inRanges unwritableRanges c.toNat := by
  simp only [isUnwritable, Bool.or_eq_true] at h
  have of_inRanges {table : List (Nat × Nat)}
      (htable : ∀ r ∈ table, ∀ n ∈ List.range' r.1 (r.2 + 1 - r.1),
        Text.inRanges unwritableRanges (Char.ofNat n).toNat)
      (hc : Text.inRanges table c.toNat) : Text.inRanges unwritableRanges c.toNat :=
    Text.forall_inRanges (P := fun c => Text.inRanges unwritableRanges c.toNat) htable hc
  rcases h with (hblank | hcontrol) | hmark
  · exact of_inRanges (by decide) hblank
  · have hcodes : Text.inRanges [(0, 31), (127, 159)] c.toNat := by
      simp only [Text.isControl, Bool.or_eq_true, Bool.and_eq_true, decide_eq_true_eq] at hcontrol
      simp [Text.inRanges]
      omega
    exact of_inRanges (by decide) hcodes
  · have hmarks : ("<>\"\x7b\x7d|^\x60\\".toList.all
        fun d => Text.inRanges unwritableRanges d.toNat) = true := by
      decide
    exact List.all_eq_true.1 hmarks c (by simpa using hmark)

theorem inRanges_of_isAlphanumeric {c : Char} (h : Text.isAlphanumeric c) :
    Text.inRanges unwritableRanges c.toNat = false := by
  refine Bool.eq_false_iff.2 fun hin => ?_
  have := Text.forall_inRanges (P := fun c => Text.isAlphanumeric c = false) (by decide +kernel) hin
  simp [this] at h

theorem isUnwritable_of_isAlphanumeric {c : Char} (h : Text.isAlphanumeric c) :
    isUnwritable c = false := by
  refine Bool.eq_false_iff.2 fun hc => ?_
  have := inRanges_of_isAlphanumeric h
  rw [inRanges_of_isUnwritable hc] at this
  cases this

theorem isUnwritable_of_isLocalChar {c : Char} (h : Scanner.isLocalChar c) :
    isUnwritable c = false := by
  simp only [Scanner.isLocalChar, Scanner.isWordChar, Scanner.isNameChar, Bool.or_eq_true,
    beq_iff_eq] at h
  rcases h with (((h | rfl) | rfl) | rfl) | rfl
  · exact isUnwritable_of_isAlphanumeric h
  all_goals decide

def Writable (cs : List Char) : Prop := ∀ c ∈ cs, isUnwritable c = false

instance (cs : List Char) : Decidable (Writable cs) :=
  decidable_of_iff (cs.all fun c => !isUnwritable c) (by simp [Writable])

@[simp] theorem writable_nil : Writable [] := nofun

@[simp] theorem writable_cons {c : Char} {cs : List Char} :
    Writable (c :: cs) ↔ isUnwritable c = false ∧ Writable cs := List.forall_mem_cons

@[simp] theorem writable_append {as bs : List Char} :
    Writable (as ++ bs) ↔ Writable as ∧ Writable bs := List.forall_mem_append

theorem Writable.of_subset {as bs : List Char} (h : Writable bs) (hsub : as ⊆ bs) : Writable as :=
  fun c hc => h c (hsub hc)

theorem Iri.check_eq_ok_iff {i : Iri} :
    i.check = .ok () ↔
      i.text ≠ "" ∧ ':' ∈ i.text.toList ∧ ∀ c ∈ i.text.toList, isUnwritable c = false := by
  simp [Iri.check, and_assoc]

theorem Iri.check_iff_writable {i : Iri} (h : ':' ∈ i.text.toList) :
    i.check = .ok () ↔ Writable i.text.toList := by
  have hne : i.text ≠ "" := by
    rintro hempty
    simp [hempty] at h
  simp [check_eq_ok_iff, hne, h, Writable]

theorem isReferenceChar_of_writable {c : Char} (h : isUnwritable c = false) :
    Scanner.isReferenceChar c := by
  simp only [isUnwritable, Bool.or_eq_false_iff] at h
  obtain ⟨⟨hblank, -⟩, hmarks⟩ := h
  have hne : ∀ d ∈ "<>\"\x7b\x7d|^\x60\\".toList, c ≠ d := by
    rintro d hd rfl
    simp only [List.contains_eq_mem, hd, decide_true] at hmarks
    exact absurd hmarks (by decide)
  have ne (d : Char) (hd : d ∈ "<>\"\x7b\x7d|^\x60\\".toList) : (c == d) = false := by
    simpa using hne d hd
  simp [Scanner.isReferenceChar, Scanner.endsReference, bne, hblank, ne '>' (by decide),
    ne '<' (by decide), ne '"' (by decide), ne '\x7b' (by decide), ne '\x7d' (by decide),
    ne '|' (by decide), ne '^' (by decide), ne '\x60' (by decide)]

theorem Iri.legible_of_check {i : Iri} (h : i.check = .ok ()) : i.Legible :=
  fun c hc => isReferenceChar_of_writable ((Iri.check_eq_ok_iff.1 h).2.2 c hc)

theorem Literal.check_datatype {l : Literal} (h : (Term.literal l).check = .ok ()) {datatype : Iri}
    (hk : l.kind = .typed datatype) : datatype.check = .ok () := by
  simpa [Term.check, datatype?, hk] using h

theorem Literal.legible_of_check {l : Literal} (h : (Term.literal l).check = .ok ())
    (htag : l.TagLegible) : l.Legible := by
  unfold Legible
  split
  next => trivial
  next tag hk => exact htag.isTag hk
  next datatype hk => exact Iri.legible_of_check (check_datatype h hk)

def Term.TagLegible : Term → Prop
  | .literal l => l.TagLegible
  | _ => True

theorem Term.legible_of_check {t : Term} (h : t.check = .ok ()) (htag : t.TagLegible) :
    t.Legible := by
  cases t with
  | iri i => exact Iri.legible_of_check h
  | literal l => exact Literal.legible_of_check h htag
  | var name => simp [check] at h

theorem Triple.check_eq_ok_iff {t : Triple} :
    t.check = .ok () ↔
      t.subject.check = .ok () ∧ t.predicate.check = .ok () ∧ t.object.check = .ok () := by
  simp only [Triple.check, bind, Except.bind]
  cases t.subject.check <;> cases t.predicate.check <;> simp

theorem checkAll_eq_ok_iff {ts : List Triple} :
    checkAll ts = .ok () ↔ ∀ t ∈ ts, t.check = .ok () := by
  induction ts with
  | nil => simp [checkAll]
  | cons t ts ih =>
    simp only [checkAll, bind, Except.bind, List.forall_mem_cons]
    cases t.check with
    | error e => simp
    | ok _ => simpa using ih

end LinkedRaces
