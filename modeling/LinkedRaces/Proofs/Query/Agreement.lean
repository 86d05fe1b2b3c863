import LinkedRaces.Proofs.Number.Underflow
import LinkedRaces.Query.Filter
import LinkedRaces.Query.Solutions

/-!
Filters and orders side by side. Orders keep empty texts, numbers and all else apart; on two texts
of one such group they decide as filters do, but for the two zeros. A number with a minus sign that
is read as zero is below one without, though filters take them for equal.
-/

namespace LinkedRaces

open Number (Binary parseNumeric?)

namespace Number.Binary

theorem isZero_iff {x : Binary} : x.isZero ↔ x.magnitude = 0 := by simp [isZero]

theorem compare_congr {a b c d : Int} (hlt : a < b ↔ c < d) (heq : a = b ↔ c = d) :
    compare a b = compare c d := by
  change compareOfLessAndEq a b = compareOfLessAndEq c d
  simp only [compareOfLessAndEq, hlt, heq]

theorem compareTotal_eq_compareValue {x y : Binary}
    (h : x.negative = y.negative ∨ ¬ x.isZero ∨ ¬ y.isZero) :
    x.compareTotal y = x.compareValue y := by
  simp only [isZero_iff] at h
  refine compare_congr ?_ ?_
  all_goals
    cases hx : x.negative <;> cases hy : y.negative <;>
      simp only [hx, hy, totalRank, rank, Bool.false_eq_true, if_true, if_false, false_or,
        reduceCtorEq] at h ⊢ <;>
      omega

theorem compareValue_zeros {x y : Binary} (hx : x.isZero) (hy : y.isZero) :
    x.compareValue y = .eq := by
  rw [isZero_iff] at hx hy
  have hrank : x.rank = y.rank := by simp [rank, hx, hy]
  exact compare_eq_iff_eq.2 hrank

theorem compareTotal_opposite {x y : Binary} (h : x.negative ≠ y.negative) :
    x.compareTotal y ≠ .eq := by
  intro heq
  have hrank : x.totalRank = y.totalRank := compare_eq_iff_eq.1 heq
  cases hx : x.negative <;> cases hy : y.negative <;>
    simp only [hx, hy, totalRank, Bool.false_eq_true, if_true, if_false, ne_eq, not_true_eq_false]
      at h hrank <;>
    omega

end Number.Binary

def decimal? (text : String) : Option (Bool × ℚ) := do
  guard (parseNumeric? text).isSome
  let (negative, body) := Number.signed (Text.trimChars text.toList)
  let (m, places, rest) ← Number.significand? body
  let e ← Number.exponent? rest
  return (negative, m * 10 ^ (e - (places : Int)))

theorem decimal?_of_parseNumeric? {text : String} {x : Binary} (h : parseNumeric? text = some x) :
    ∃ v, decimal? text = some (x.negative, v) ∧ (x.isZero ↔ v ≤ Number.Format.leastHalf) := by
  have hnumeric : (parseNumeric? text).isSome := Option.isSome_of_eq_some h
  simp only [parseNumeric?] at h
  split at h
  · obtain ⟨n, hn, rfl⟩ := Option.map_eq_some_iff.1 h
    obtain ⟨hmagnitude, -⟩ := Option.filter_eq_some_iff.1 hn
    obtain ⟨⟨m, places, rest⟩, hsignificand, hrest⟩ := Option.bind_eq_some_iff.1 hmagnitude
    obtain ⟨e, hexponent, hround⟩ := Option.bind_eq_some_iff.1 hrest
    obtain rfl := Option.some.inj hround
    refine ⟨m * 10 ^ (e - (places : Int)), ?_, ?_⟩
    · simp [decimal?, hnumeric, hsignificand, hexponent, guard]
    · rw [Number.Binary.isZero_iff]
      exact Number.Format.binary64_ofDecimal_eq_zero_iff m _
  · cases h

/-- Both are empty, both look numeric, or neither is any of these. -/
inductive SameGroup : String → String → Prop
  | empty : SameGroup "" ""
  | numbers {a b : String} (ha : (parseNumeric? a).isSome) (hb : (parseNumeric? b).isSome) :
    SameGroup a b
  | others {a b : String} (ha : a ≠ "") (hb : b ≠ "") (hna : parseNumeric? a = none)
    (hnb : parseNumeric? b = none) : SameGroup a b

/-- Both are read as zero, and just one of them has a minus sign. -/
def OppositeZeros (a b : String) : Prop :=
  ∃ negative u v, decimal? a = some (negative, u) ∧ decimal? b = some (!negative, v) ∧
    u ≤ Number.Format.leastHalf ∧ v ≤ Number.Format.leastHalf

section Numeric

variable {a b : String} {x y : Binary}

theorem oppositeZeros_iff (hx : parseNumeric? a = some x) (hy : parseNumeric? b = some y) :
    OppositeZeros a b ↔ x.negative ≠ y.negative ∧ x.isZero ∧ y.isZero := by
  obtain ⟨u, hu, hxu⟩ := decimal?_of_parseNumeric? hx
  obtain ⟨v, hv, hyv⟩ := decimal?_of_parseNumeric? hy
  rw [hxu, hyv, ← Bool.eq_not]
  constructor
  · rintro ⟨negative, u', v', hu', hv', hsmall, hsmall'⟩
    obtain ⟨rfl, rfl⟩ := Prod.mk.inj (Option.some.inj (hu.symm.trans hu'))
    obtain ⟨hsign, rfl⟩ := Prod.mk.inj (Option.some.inj (hv.symm.trans hv'))
    exact ⟨by simp [hsign], hsmall, hsmall'⟩
  · rintro ⟨hsign, hsmall, hsmall'⟩
    exact ⟨x.negative, u, v, hu, by rw [hv, hsign, Bool.not_not], hsmall, hsmall'⟩

theorem parseNumeric?_empty : parseNumeric? "" = none := by decide +kernel

theorem rank_of_parseNumeric? (hx : parseNumeric? a = some x) : SortRank.of a = .number x := by
  have ha : a ≠ "" := by
    rintro rfl
    rw [parseNumeric?_empty] at hx
    cases hx
  simp [SortRank.of, ha, hx]

theorem sortOrder_numbers (hx : parseNumeric? a = some x) (hy : parseNumeric? b = some y) :
    sortOrder a b = x.compareTotal y := by
  simp only [sortOrder, rank_of_parseNumeric? hx, rank_of_parseNumeric? hy]

theorem compareValues_numbers (hx : parseNumeric? a = some x) (hy : parseNumeric? b = some y) :
    compareValues a b = x.compareValue y := by
  simp only [compareValues, hx, hy]

end Numeric

theorem sortOrder_others {a b : String} (ha : a ≠ "") (hb : b ≠ "") (hna : parseNumeric? a = none)
    (hnb : parseNumeric? b = none) : sortOrder a b = compareValues a b := by
  have hra : SortRank.of a = .other := by simp [SortRank.of, ha, hna]
  have hrb : SortRank.of b = .other := by simp [SortRank.of, hb, hnb]
  simp [sortOrder, hra, hrb, compareValues, hna]

theorem isSome_of_decimal? {text : String} {d : Bool × ℚ} (h : decimal? text = some d) :
    (parseNumeric? text).isSome := by
  cases hx : parseNumeric? text with
  | none => simp [decimal?, hx, guard] at h
  | some x => rfl

theorem not_oppositeZeros {a b : String} (h : parseNumeric? a = none) : ¬ OppositeZeros a b := by
  rintro ⟨negative, u, v, hu, -⟩
  have hnumeric := isSome_of_decimal? hu
  rw [h] at hnumeric
  cases hnumeric

namespace SameGroup

variable {a b : String}

theorem sortOrder_eq_iff (h : SameGroup a b) :
    sortOrder a b = compareValues a b ↔ ¬ OppositeZeros a b := by
  cases h with
  | empty => exact iff_of_true (by decide +kernel) (not_oppositeZeros parseNumeric?_empty)
  | others ha hb hna hnb =>
    exact iff_of_true (sortOrder_others ha hb hna hnb) (not_oppositeZeros hna)
  | numbers ha hb =>
    obtain ⟨x, hx⟩ := Option.isSome_iff_exists.1 ha
    obtain ⟨y, hy⟩ := Option.isSome_iff_exists.1 hb
    rw [sortOrder_numbers hx hy, compareValues_numbers hx hy, oppositeZeros_iff hx hy]
    constructor
    · rintro heq ⟨hsign, hx₀, hy₀⟩
      exact Binary.compareTotal_opposite hsign (heq.trans (Binary.compareValue_zeros hx₀ hy₀))
    · intro hzeros
      refine Binary.compareTotal_eq_compareValue ?_
      by_contra hnot
      simp only [not_or, not_not] at hnot
      exact hzeros hnot

end SameGroup

theorem OppositeZeros.compared {a b : String} (h : OppositeZeros a b) :
    compareValues a b = .eq ∧ sortOrder a b ≠ .eq := by
  obtain ⟨negative, u, v, hu, hv, -⟩ := id h
  obtain ⟨x, hx⟩ := Option.isSome_iff_exists.1 (isSome_of_decimal? hu)
  obtain ⟨y, hy⟩ := Option.isSome_iff_exists.1 (isSome_of_decimal? hv)
  obtain ⟨hsign, hx₀, hy₀⟩ := (oppositeZeros_iff hx hy).1 h
  rw [compareValues_numbers hx hy, sortOrder_numbers hx hy]
  exact ⟨Binary.compareValue_zeros hx₀ hy₀, Binary.compareTotal_opposite hsign⟩

def OrderKey.condition (k : OrderKey) (op : Comparison) (t : Term) : Expression :=
  .compare op (.var k.var) (.const t)

section Rows

variable {k : OrderKey} {row row' : Binding} {s t : Term}

theorem holds_condition (hrow : row.get? k.var = some s) (op : Comparison) (t : Term) :
    (k.condition op t).holds row = op.holds (compareValues s.stringValue t.stringValue) := by
  simp [OrderKey.condition, Expression.holds, Expression.value?, hrow, FilterValue.text,
    FilterValue.truth?]

theorem compare_eq_iff (hrow : row.get? k.var = some s) (hrow' : row'.get? k.var = some t) :
    k.compare row row' = .eq ↔ sortOrder s.stringValue t.stringValue = .eq := by
  simp only [OrderKey.compare, valueText, hrow, hrow', Option.map_some, Option.getD_some]
  split
  · exact Iff.rfl
  · cases sortOrder s.stringValue t.stringValue <;> decide

end Rows

/-- Within a group an order compares two texts as a filter does, unless both are zeros and just one
has a minus sign: a filter takes these for equal, an order does not. So of two rows with values of
one group, the one that passes the filter for being equal to the other is a tie with it for an
order, with that exception. -/
theorem sortOrder_eq_compareValues_iff {a b : String} (h : SameGroup a b) :
    (sortOrder a b = compareValues a b ↔ ¬ OppositeZeros a b) ∧
    (OppositeZeros a b → compareValues a b = .eq ∧ sortOrder a b ≠ .eq) ∧
    ∀ (k : OrderKey) (row row' : Binding) (s t : Term),
      row.get? k.var = some s → s.stringValue = a → row'.get? k.var = some t → t.stringValue = b →
      (k.condition .equal t).holds row → (k.compare row row' = .eq ↔ ¬ OppositeZeros a b) := by
  refine ⟨h.sortOrder_eq_iff, OppositeZeros.compared, ?_⟩
  rintro k row row' s t hrow rfl hrow' rfl hequal
  have heq : compareValues s.stringValue t.stringValue = .eq := by
    rw [holds_condition hrow] at hequal
    exact beq_iff_eq.1 hequal
  rw [compare_eq_iff hrow hrow', ← h.sortOrder_eq_iff, heq]

def distanceRow (text : String) : Binding := Dictionary.ofList [("km", .literal (.plain text))]

theorem sortOrder_eq_compareValues_iff_padded :
    SameGroup " +0.70e1" "007" ∧ sortOrder " +0.70e1" "007" = compareValues " +0.70e1" "007" ∧
      OrderKey.compare ⟨"km", false⟩ (distanceRow " +0.70e1") (distanceRow "007") = .eq := by
  have hgroup : SameGroup " +0.70e1" "007" := .numbers (by decide +kernel) (by decide +kernel)
  have hx : parseNumeric? " +0.70e1" = some ⟨false, 0x401C000000000000⟩ := by decide +kernel
  have hy : parseNumeric? "007" = some ⟨false, 0x401C000000000000⟩ := by decide +kernel
  have hzeros : ¬ OppositeZeros " +0.70e1" "007" := by
    rw [oppositeZeros_iff hx hy]
    exact fun hzeros => hzeros.1 rfl
  obtain ⟨hagree, -, hrows⟩ := sortOrder_eq_compareValues_iff hgroup
  refine ⟨hgroup, hagree.2 hzeros, (hrows ⟨"km", false⟩ _ _ (.literal (.plain " +0.70e1"))
    (.literal (.plain "007")) rfl rfl rfl rfl ?_).2 hzeros⟩
  decide +kernel

/-- The zeros are told apart by an order, and by no filter. -/
theorem sortOrder_negative_zero :
    SameGroup "-0" "0" ∧ sortOrder "-0" "0" = .lt ∧ compareValues "-0" "0" = .eq := by
  refine ⟨.numbers ?_ ?_, ?_, ?_⟩
  all_goals decide +kernel

end LinkedRaces
