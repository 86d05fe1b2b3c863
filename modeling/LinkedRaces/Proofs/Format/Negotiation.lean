import LinkedRaces.Format.Graph

/-!
What an `Accept` header decides. The choice is a running best over the known entries. It is the
highest positive weight, and the earlier of two equal ones, unless an entry whose weight is no
number comes before every entry of positive weight: such a weight is neither refused nor ever
exceeded, so the entry that has it is chosen over all that follow.
-/

namespace LinkedRaces

open Number (Binary)

variable {α : Type}

namespace Quality

def Positive : Quality → Prop
  | .number x => 0 < x.rank
  | .nan => False

@[simp] theorem positive_number {x : Binary} : Positive (.number x) ↔ 0 < x.rank := Iff.rfl

@[simp] theorem not_positive_nan : ¬ Positive .nan := id

theorem isRefused_number (x : Binary) : isRefused (.number x) = decide (x.rank ≤ 0) := by
  rw [Bool.eq_iff_iff]
  cases hx : x.negative <;> simp [isRefused, Binary.isZero, Binary.rank, hx]

@[simp] theorem isRefused_nan : isRefused .nan = false := rfl

theorem exceeds_number (x y : Binary) :
    exceeds (.number x) (.number y) = decide (y.rank < x.rank) := by
  rw [Bool.eq_iff_iff]
  simp [exceeds, Binary.compareValue, Int.compare_eq_gt]

@[simp] theorem exceeds_nan (q : Quality) : exceeds q .nan = false := by cases q <;> rfl

@[simp] theorem nan_exceeds (q : Quality) : exceeds .nan q = false := rfl

end Quality

def offer? (lookup : String → Option α) (entry : List Char) : Option (Quality × α) :=
  match Text.splitAll (· == ';') entry with
  | [] => none
  | mediaType :: parameters =>
    (lookup (String.ofList (Text.trimChars mediaType))).map (Quality.ofParameters parameters, ·)

def offers (lookup : String → Option α) (accept : String) : List (Quality × α) :=
  (Text.splitAll (· == ',') accept.toList).filterMap (offer? lookup)

def weigh (best : Option (Quality × α)) (offer : Quality × α) : Option (Quality × α) :=
  if offer.1.isRefused then best else better best offer

theorem acceptEntry_eq_filter (lookup : String → Option α) (entry : List Char) :
    acceptEntry lookup entry = (offer? lookup entry).filter fun offer => !offer.1.isRefused := by
  unfold acceptEntry offer?
  cases Text.splitAll (· == ';') entry with
  | nil => rfl
  | cons mediaType parameters =>
    dsimp only
    cases hq : (Quality.ofParameters parameters).isRefused <;>
      cases lookup (String.ofList (Text.trimChars mediaType)) <;> simp [Option.filter, hq]

theorem negotiate_eq_foldl (lookup : String → Option α) (accept : String) :
    negotiate lookup accept = ((offers lookup accept).foldl weigh none).map (·.2) := by
  have hentries : (Text.splitAll (· == ',') accept.toList).filterMap (acceptEntry lookup) =
      (offers lookup accept).filter fun offer => !offer.1.isRefused := by
    rw [offers, List.filter_filterMap]
    exact congrArg (List.filterMap · _) (funext (acceptEntry_eq_filter lookup))
  have hweigh : (fun best (offer : Quality × α) =>
      if !offer.1.isRefused then better best offer else best) = weigh := by
    funext best offer
    cases h : offer.1.isRefused <;> simp [weigh, h]
  simp only [negotiate, hentries, List.foldl_filter, hweigh]

/-- The format stands at one place with a positive weight, which no number before it reaches and
none behind it exceeds. -/
def Best (entries : List (Quality × α)) (format : α) : Prop :=
  ∃ before x after, entries = before ++ (.number x, format) :: after ∧ 0 < x.rank ∧
    (∀ y other, (.number y, other) ∈ before → y.rank < x.rank) ∧
    ∀ y other, (.number y, other) ∈ after → y.rank ≤ x.rank

/-- The first entry that is not refused has no number for its weight. -/
def LedByNan (entries : List (Quality × α)) (format : α) : Prop :=
  entries.find? (fun entry => !entry.1.isRefused) = some (.nan, format)

theorem Best.unique {entries : List (Quality × α)} {a b : α} (ha : Best entries a)
    (hb : Best entries b) : a = b := by
  obtain ⟨before, x, after, rfl, -, hbefore, hafter⟩ := ha
  obtain ⟨before', y, after', heq, -, hbefore', hafter'⟩ := hb
  rcases List.append_eq_append_iff.1 heq with ⟨mid, rfl, hmid⟩ | ⟨mid, rfl, hmid⟩ <;>
    cases mid with
    | nil => simp_all
    | cons entry mid => ?_
  · obtain ⟨rfl, rfl⟩ := List.cons.inj hmid
    have := hbefore' x a (by simp)
    have := hafter y b (by simp)
    omega
  · obtain ⟨rfl, rfl⟩ := List.cons.inj hmid
    have := hbefore y b (by simp)
    have := hafter' x a (by simp)
    omega

theorem Best.exists_positive {entries : List (Quality × α)} {a : α} (h : Best entries a) :
    ∃ entry ∈ entries, entry.1.Positive := by
  obtain ⟨before, x, after, rfl, hx, -, -⟩ := h
  exact ⟨(.number x, a), by simp, hx⟩

theorem Best.cons {entries : List (Quality × α)} {a : α} {entry : Quality × α}
    (h : Best entries a) (hentry : ∀ y, entry.1 = .number y →
      y.rank ≤ 0 ∨ ∃ z other, (.number z, other) ∈ entries ∧ y.rank < z.rank) :
    Best (entry :: entries) a := by
  obtain ⟨before, x, after, rfl, hx, hbefore, hafter⟩ := h
  refine ⟨entry :: before, x, after, rfl, hx, fun y other hmem => ?_, hafter⟩
  rcases List.mem_cons.1 hmem with rfl | hmem
  · rcases hentry y rfl with hy | ⟨z, format, hz, hyz⟩
    · exact Int.lt_of_le_of_lt hy hx
    · have hzx : z.rank ≤ x.rank := by
        rcases List.mem_append.1 hz with hz | hz
        · exact Int.le_of_lt (hbefore z format hz)
        · rcases List.mem_cons.1 hz with hz | hz
          · cases hz
            exact Int.le_refl _
          · exact hafter z format hz
      exact Int.lt_of_lt_of_le hyz hzx
  · exact hbefore y other hmem

theorem Best.insert {entries : List (Quality × α)} {a b : α} {x : Binary} {entry : Quality × α}
    (h : Best ((.number x, b) :: entries) a) (hentry : ∀ y, entry.1 = .number y → y.rank ≤ x.rank) :
    Best ((.number x, b) :: entry :: entries) a := by
  obtain ⟨before, z, after, heq, hz, hbefore, hafter⟩ := h
  cases before with
  | nil =>
    obtain ⟨hfirst, rfl⟩ := List.cons.inj heq
    cases hfirst
    refine ⟨[], x, entry :: entries, rfl, hz, by simp, fun y other hmem => ?_⟩
    rcases List.mem_cons.1 hmem with rfl | hmem
    · exact hentry y rfl
    · exact hafter y other hmem
  | cons first before =>
    obtain ⟨rfl, rfl⟩ := List.cons.inj heq
    have hxz : x.rank < z.rank := hbefore x b (by simp)
    refine ⟨(.number x, b) :: entry :: before, z, after, rfl, hz, fun y other hmem => ?_, hafter⟩
    rcases List.mem_cons.1 hmem with hmem | hmem
    · exact hbefore y other (hmem ▸ List.mem_cons_self)
    · rcases List.mem_cons.1 hmem with rfl | hmem
      · exact Int.lt_of_le_of_lt (hentry y rfl) hxz
      · exact hbefore y other (List.mem_cons_of_mem _ hmem)

/-- From a positive best on, the loop ends with the best of it and the rest. -/
theorem best_of_foldl_weigh {x : Binary} {a : α} (hx : 0 < x.rank) (entries : List (Quality × α)) :
    ∃ q b, entries.foldl weigh (some (.number x, a)) = some (q, b) ∧
      Best ((.number x, a) :: entries) b := by
  induction entries generalizing x a with
  | nil => exact ⟨_, _, rfl, [], x, [], rfl, hx, by simp, by simp⟩
  | cons entry entries ih =>
    obtain ⟨q, format⟩ := entry
    rw [List.foldl_cons]
    cases q with
    | nan =>
      obtain ⟨q, b, hfold, hbest⟩ := ih (a := a) hx
      exact ⟨q, b, by simpa [weigh, better] using hfold, hbest.insert (by simp)⟩
    | number y =>
      by_cases hxy : x.rank < y.rank
      · have hy : 0 < y.rank := Int.lt_trans hx hxy
        obtain ⟨q, b, hfold, hbest⟩ := ih (a := format) hy
        refine ⟨q, b, ?_, hbest.cons fun z hz => .inr ⟨y, format, by simp, by simp_all⟩⟩
        simpa [weigh, better, Quality.isRefused_number, Quality.exceeds_number, hxy,
          Int.not_le.2 hy] using hfold
      · obtain ⟨q, b, hfold, hbest⟩ := ih (a := a) hx
        refine ⟨q, b, ?_, hbest.insert fun z hz => by simp_all⟩
        simpa [weigh, better, Quality.exceeds_number, hxy] using hfold

theorem foldl_weigh_nan (a : α) (entries : List (Quality × α)) :
    entries.foldl weigh (some (.nan, a)) = some (.nan, a) := by
  induction entries with
  | nil => rfl
  | cons entry entries ih => simpa [weigh, better] using ih

theorem weigh_none_refused {x : Binary} (hx : ¬ 0 < x.rank) (a : α) :
    weigh none (.number x, a) = none := by
  simpa [weigh, better, Quality.isRefused_number] using hx

theorem ledByNan_refused_cons {x : Binary} (hx : ¬ 0 < x.rank) {a b : α}
    {entries : List (Quality × α)} :
    LedByNan ((.number x, a) :: entries) b ↔ LedByNan entries b := by
  simp [LedByNan, Quality.isRefused_number, Int.not_lt.1 hx]

theorem foldl_weigh_none_of_ledByNan {entries : List (Quality × α)} {a : α}
    (h : LedByNan entries a) : entries.foldl weigh none = some (.nan, a) := by
  induction entries with
  | nil => cases h
  | cons entry entries ih =>
    obtain ⟨q, format⟩ := entry
    cases q with
    | nan =>
      obtain rfl : format = a := by simpa [LedByNan] using h
      exact foldl_weigh_nan format entries
    | number x =>
      by_cases hx : 0 < x.rank
      · simp [LedByNan, Quality.isRefused_number, hx] at h
      · rw [List.foldl_cons, weigh_none_refused hx]
        exact ih ((ledByNan_refused_cons hx).1 h)

theorem foldl_weigh_none {entries : List (Quality × α)} (h : ∀ a, ¬ LedByNan entries a) :
    (∃ q b, entries.foldl weigh none = some (q, b) ∧ Best entries b) ∨
      entries.foldl weigh none = none ∧ ∀ entry ∈ entries, ¬ entry.1.Positive := by
  induction entries with
  | nil => exact .inr ⟨rfl, by simp⟩
  | cons entry entries ih =>
    obtain ⟨q, a⟩ := entry
    cases q with
    | nan => exact (h a rfl).elim
    | number x =>
      by_cases hx : 0 < x.rank
      · have hfirst : weigh none (.number x, a) = some (.number x, a) := by
          simp [weigh, better, Quality.isRefused_number, hx]
        exact .inl (by simpa [hfirst] using best_of_foldl_weigh hx entries)
      · rw [List.foldl_cons, weigh_none_refused hx]
        rcases ih fun b hb => h b ((ledByNan_refused_cons hx).2 hb) with
          ⟨q, b, hfold, hbest⟩ | ⟨hfold, hnone⟩
        · exact .inl ⟨q, b, hfold, hbest.cons fun y hy => .inl (by simp_all)⟩
        · exact .inr ⟨hfold, List.forall_mem_cons.2 ⟨hx, hnone⟩⟩

def Untied (entries : List (Quality × α)) : Prop :=
  entries.Pairwise fun e f => ∀ x y, e.1 = .number x → f.1 = .number y → 0 < x.rank →
    x.rank ≠ y.rank

theorem Best.perm {entries entries' : List (Quality × α)} {a : α} (h : Best entries a)
    (hperm : entries.Perm entries') (huntied : Untied entries) : Best entries' a := by
  obtain ⟨before, x, after, rfl, hx, hbefore, hafter⟩ := h
  obtain ⟨before', after', rfl⟩ :=
    List.append_of_mem (hperm.mem_iff.1 (List.mem_append_right before List.mem_cons_self))
  have hothers : (before ++ after).Perm (before' ++ after') :=
    ((List.perm_middle.symm.trans hperm).trans List.perm_middle).cons_inv
  have hless (y : Binary) (other : α) (hy : (.number y, other) ∈ before' ++ after') :
      y.rank < x.rank := by
    rcases List.mem_append.1 (hothers.mem_iff.2 hy) with hy | hy
    · exact hbefore y other hy
    · have hne : x.rank ≠ y.rank :=
        List.rel_of_pairwise_cons (List.pairwise_append.1 huntied).2.1 hy x y rfl rfl hx
      have hle := hafter y other hy
      omega
  exact ⟨before', x, after', rfl, hx, fun y other hy => hless y other (List.mem_append_left _ hy),
    fun y other hy => Int.le_of_lt (hless y other (List.mem_append_right _ hy))⟩

theorem Untied.perm {entries entries' : List (Quality × α)} (h : Untied entries)
    (hperm : entries.Perm entries') : Untied entries' :=
  (hperm.pairwise_iff fun hab x y hx hy hpos heq =>
    hab y x hy hx (lt_of_lt_of_eq hpos heq) heq.symm).1 h

section Choice

variable {lookup : String → Option α} {accept : String}

theorem negotiate_of_ledByNan {a : α} (h : LedByNan (offers lookup accept) a) :
    negotiate lookup accept = some a := by
  rw [negotiate_eq_foldl, foldl_weigh_none_of_ledByNan h]
  rfl

theorem negotiate_eq_some_iff_best (h : ∀ a, ¬ LedByNan (offers lookup accept) a) {a : α} :
    negotiate lookup accept = some a ↔ Best (offers lookup accept) a := by
  rw [negotiate_eq_foldl]
  rcases foldl_weigh_none h with ⟨q, b, hfold, hbest⟩ | ⟨hfold, hnone⟩
  · rw [hfold]
    exact ⟨fun hab => Option.some.inj hab ▸ hbest, fun ha => congrArg some (hbest.unique ha)⟩
  · rw [hfold]
    refine ⟨nofun, fun hbest => ?_⟩
    obtain ⟨entry, hmem, hpos⟩ := hbest.exists_positive
    exact (hnone entry hmem hpos).elim

theorem negotiate_eq_none_iff_not_positive (h : ∀ a, ¬ LedByNan (offers lookup accept) a) :
    negotiate lookup accept = none ↔ ∀ entry ∈ offers lookup accept, ¬ entry.1.Positive := by
  rw [negotiate_eq_foldl]
  rcases foldl_weigh_none h with ⟨q, b, hfold, hbest⟩ | ⟨hfold, hnone⟩
  · rw [hfold]
    obtain ⟨entry, hmem, hpos⟩ := hbest.exists_positive
    exact ⟨nofun, fun hnone => (hnone entry hmem hpos).elim⟩
  · simpa [hfold] using hnone

theorem offers_perm {accept' : String} (h : (Text.splitAll (· == ',') accept.toList).Perm
    (Text.splitAll (· == ',') accept'.toList)) :
    (offers lookup accept).Perm (offers lookup accept') :=
  h.filterMap _

end Choice

/-- If the first known entry that is not refused has no number for its weight, that entry is chosen.
Otherwise the choice is the first of the known entries of highest weight, provided that this is
positive; there is none exactly if no known entry has a positive weight; and reordering the entries
of a header in which the positive weights of the known ones differ leaves the choice as it is,
unless the new order begins with a weight that is no number. -/
theorem negotiate_spec (lookup : String → Option α) (accept : String) :
    (∀ a, LedByNan (offers lookup accept) a → negotiate lookup accept = some a) ∧
    ((∀ a, ¬ LedByNan (offers lookup accept) a) →
      (∀ a, negotiate lookup accept = some a ↔ Best (offers lookup accept) a) ∧
      (negotiate lookup accept = none ↔
        ∀ entry ∈ offers lookup accept, ¬ entry.1.Positive) ∧
      ∀ accept' : String,
        (Text.splitAll (· == ',') accept.toList).Perm (Text.splitAll (· == ',') accept'.toList) →
        Untied (offers lookup accept) → (∀ a, ¬ LedByNan (offers lookup accept') a) →
        negotiate lookup accept' = negotiate lookup accept) := by
  refine ⟨fun a => negotiate_of_ledByNan, fun h => ⟨fun a => negotiate_eq_some_iff_best h,
    negotiate_eq_none_iff_not_positive h, fun accept' hperm huntied h' => ?_⟩⟩
  have hoffers : (offers lookup accept).Perm (offers lookup accept') := offers_perm hperm
  ext a
  rw [negotiate_eq_some_iff_best h, negotiate_eq_some_iff_best h']
  exact ⟨fun hbest => hbest.perm hoffers.symm (huntied.perm hoffers),
    fun hbest => hbest.perm hoffers huntied⟩

theorem negotiate_spec_weighted :
    let listed := "text/html, application/rdf+xml;q=0.5, text/turtle;q=0.9"
    let reordered := " text/turtle;q=0.9,text/html, application/rdf+xml;q=0.5"
    Best (offers GraphFormat.ofMediaType? listed) .turtle ∧
      GraphFormat.negotiate? reordered = GraphFormat.negotiate? listed := by
  intro listed reordered
  have hlisted : offers GraphFormat.ofMediaType? listed =
      [(.number ⟨false, 0x3f000000⟩, .rdfXml), (.number ⟨false, 0x3f666666⟩, .turtle)] := by
    decide +kernel
  have hreordered : offers GraphFormat.ofMediaType? reordered =
      [(.number ⟨false, 0x3f666666⟩, .turtle), (.number ⟨false, 0x3f000000⟩, .rdfXml)] := by
    decide +kernel
  obtain ⟨hsome, -, horder⟩ := (negotiate_spec GraphFormat.ofMediaType? listed).2 fun a => by
    rw [hlisted]
    simp [LedByNan, Quality.isRefused_number, Binary.rank]
  refine ⟨(hsome .turtle).1 (by decide +kernel),
    horder reordered (by decide +kernel) ?_ fun a => ?_⟩
  · rw [hlisted]
    simp [Untied, Binary.rank]
  · rw [hreordered]
    simp [LedByNan, Quality.isRefused_number, Binary.rank]

theorem negotiate_not_highest :
    GraphFormat.negotiate? "text/turtle;q=nan, application/ld+json;q=0.9" = some .turtle ∧
      GraphFormat.negotiate? "application/ld+json;q=0.9, text/turtle;q=nan" = some .jsonLd ∧
      ¬ Best (offers GraphFormat.ofMediaType?
        "text/turtle;q=nan, application/ld+json;q=0.9") .turtle := by
  refine ⟨by decide +kernel, by decide +kernel, ?_⟩
  have hoffers : offers GraphFormat.ofMediaType? "text/turtle;q=nan, application/ld+json;q=0.9" =
      [(.nan, .turtle), (.number ⟨false, 0x3f666666⟩, .jsonLd)] := by
    decide +kernel
  rw [hoffers]
  rintro ⟨before, x, after, heq, -⟩
  have : ((.number x, .turtle) : Quality × GraphFormat) ∈
      [(.nan, .turtle), (.number ⟨false, 0x3f666666⟩, .jsonLd)] := heq ▸ by simp
  simp at this

end LinkedRaces
