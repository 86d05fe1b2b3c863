import LinkedRaces.Query.Solutions

/-!
The order of rows. Each text has a place: its rank, its number if it is one, and its letters if they
decide. The comparison of orders is the order of these places, so it is a total preorder on texts of
any kind, and the keys of a query compose to one on rows. Sorting by it gives the only arrangement of
the rows that is sorted and leaves rows that compare equal as they were.
-/

namespace LinkedRaces

open Std (OrientedCmp ReflCmp TransCmp)

namespace SortRank

def numberPlace : SortRank → Int
  | number x => x.totalRank
  | _ => 0

def letters (s : String) : List Char :=
  match of s with
  | other => s.toList
  | _ => []

theorem eq_empty_of_of {s : String} (h : of s = empty) : s = "" := by
  unfold of at h
  split at h
  next hs => simpa using hs
  next => split at h <;> cases h

end SortRank

def comparePlaces : String → String → Ordering :=
  compareLex (compareOn fun s => (SortRank.of s).index)
    (compareLex (compareOn fun s => (SortRank.of s).numberPlace) (compareOn SortRank.letters))

theorem sortOrder_eq_comparePlaces : sortOrder = comparePlaces := by
  funext a b
  simp only [sortOrder, comparePlaces, compareLex, compareOn, SortRank.letters, Text.order]
  cases ha : SortRank.of a <;> cases hb : SortRank.of b
  case empty.empty =>
    obtain rfl := SortRank.eq_empty_of_of ha
    obtain rfl := SortRank.eq_empty_of_of hb
    rfl
  case number.number x y => exact Ordering.then_eq.symm
  -- the other ranks are apart, or the letters decide
  all_goals rfl

instance : TransCmp sortOrder := by
  rw [sortOrder_eq_comparePlaces]
  unfold comparePlaces
  infer_instance

theorem transCmp_of_measure {α β : Type} (cmp : β → β → Ordering) [TransCmp cmp] (f : α → β) :
    TransCmp fun a b => cmp (f a) (f b) where
  eq_swap := OrientedCmp.eq_swap
  isLE_trans := TransCmp.isLE_trans

instance (k : OrderKey) : TransCmp k.compare := by
  have h := transCmp_of_measure sortOrder fun row => valueText row k.var
  unfold OrderKey.compare
  cases k.ascending with
  | true => exact h
  | false =>
    have hswap : (fun a b => (sortOrder (valueText a k.var) (valueText b k.var)).swap) =
        fun a b => sortOrder (valueText b k.var) (valueText a k.var) :=
      funext fun a => funext fun b => OrientedCmp.eq_swap.symm
    exact hswap ▸ TransCmp.opposite

instance (keys : List OrderKey) : TransCmp (compareRows keys) := by
  induction keys with
  | nil =>
    have h : compareRows [] = compareOn fun _ => 0 := rfl
    exact h ▸ inferInstance
  | cons k ks ih =>
    have h : compareRows (k :: ks) = compareLex k.compare (compareRows ks) := rfl
    exact h ▸ inferInstance

section Arrangements

variable {α : Type} {cmp : α → α → Ordering}

def ties (cmp : α → α → Ordering) (x : α) (xs : List α) : List α :=
  xs.filter fun y => cmp x y == .eq

abbrev Sorted (cmp : α → α → Ordering) (xs : List α) : Prop :=
  xs.Pairwise fun x y => (cmp x y).isLE

/-- The elements of `xs` sorted, where those that compare equal keep their order. -/
structure Arranges (cmp : α → α → Ordering) (xs ys : List α) : Prop where
  perm : ys.Perm xs
  sorted : Sorted cmp ys
  ties_eq : ∀ x ∈ xs, ties cmp x ys = ties cmp x xs

variable [TransCmp cmp]

theorem isLE_total (x y : α) : (cmp x y).isLE ∨ (cmp y x).isLE := by
  have hswap : cmp y x = (cmp x y).swap := OrientedCmp.eq_swap
  rw [hswap]
  cases cmp x y <;> simp

theorem sorted_mergeSort (xs : List α) : Sorted cmp (xs.mergeSort fun x y => (cmp x y).isLE) :=
  List.pairwise_mergeSort (fun _ _ _ => TransCmp.isLE_trans)
    (fun x y => Bool.or_eq_true_iff.2 (isLE_total x y)) xs

/-- Elements that compare equal are a sorted sublist, which a stable sort keeps; it adds none. -/
theorem ties_mergeSort (x : α) (xs : List α) :
    ties cmp x (xs.mergeSort fun x y => (cmp x y).isLE) = ties cmp x xs := by
  have hsorted : Sorted cmp (ties cmp x xs) := by
    refine List.pairwise_filter.2 (List.pairwise_of_forall fun y z hy hz => ?_)
    have hyz : cmp y z = .eq :=
      TransCmp.eq_trans (OrientedCmp.eq_symm (beq_iff_eq.1 hy)) (beq_iff_eq.1 hz)
    rw [hyz]
    rfl
  have hsub : (ties cmp x xs).Sublist (xs.mergeSort fun x y => (cmp x y).isLE) :=
    List.sublist_mergeSort (fun _ _ _ => TransCmp.isLE_trans)
      (fun x y => Bool.or_eq_true_iff.2 (isLE_total x y)) hsorted List.filter_sublist
  have hkept : (ties cmp x xs).Sublist (ties cmp x (xs.mergeSort fun x y => (cmp x y).isLE)) := by
    simpa [ties] using hsub.filter fun y => cmp x y == .eq
  exact (hkept.eq_of_length ((List.mergeSort_perm ..).filter _).length_eq.symm).symm

theorem arranges_mergeSort (xs : List α) :
    Arranges cmp xs (xs.mergeSort fun x y => (cmp x y).isLE) :=
  ⟨List.mergeSort_perm .., sorted_mergeSort xs, fun x _ => ties_mergeSort x xs⟩

theorem Sorted.isLE_of_mem {x y : α} {ys : List α} (h : Sorted cmp (y :: ys)) (hx : x ∈ y :: ys) :
    (cmp y x).isLE := by
  rcases List.mem_cons.1 hx with rfl | hx
  · exact ReflCmp.isLE_rfl
  · exact List.rel_of_pairwise_cons h hx

theorem eq_of_perm_of_ties {ys zs : List α} (hys : Sorted cmp ys) (hzs : Sorted cmp zs)
    (hperm : ys.Perm zs) (h : ∀ x ∈ ys, ties cmp x ys = ties cmp x zs) : ys = zs := by
  induction ys generalizing zs with
  | nil => exact hperm.nil_eq
  | cons y ys ih =>
    cases zs with
    | nil => cases hperm.eq_nil
    | cons z zs =>
      obtain ⟨hfirst, hrest⟩ := List.forall_mem_cons.1 h
      have hyz : cmp y z = .eq :=
        OrientedCmp.isLE_antisymm (hys.isLE_of_mem (hperm.mem_iff.2 List.mem_cons_self))
          (hzs.isLE_of_mem (hperm.mem_iff.1 List.mem_cons_self))
      have hheads : y :: ties cmp y ys = z :: ties cmp y zs := by
        simpa [ties, hyz, ReflCmp.compare_self] using hfirst
      obtain rfl := List.head_eq_of_cons_eq hheads
      have htail (x : α) (hx : x ∈ ys) : ties cmp x ys = ties cmp x zs := by
        have hx := hrest x hx
        simp only [ties, List.filter_cons] at hx
        split at hx
        · exact List.tail_eq_of_cons_eq hx
        · exact hx
      rw [ih hys.of_cons hzs.of_cons hperm.cons_inv htail]

theorem arranges_iff {xs ys : List α} :
    Arranges cmp xs ys ↔ ys = xs.mergeSort fun x y => (cmp x y).isLE := by
  constructor
  · intro h
    refine eq_of_perm_of_ties h.sorted (sorted_mergeSort xs)
      (h.perm.trans (List.mergeSort_perm ..).symm) fun x hx => ?_
    rw [h.ties_eq x (h.perm.mem_iff.1 hx), ties_mergeSort]
  · rintro rfl
    exact arranges_mergeSort xs

end Arrangements

/-- The comparison of rows is a total preorder, and the same from either side. Among all lists, the
sorted rows are the one that arranges them. -/
theorem arranges_applyOrder_iff (keys : List OrderKey) :
    ((∀ a, compareRows keys a a = .eq) ∧
      (∀ a b, (compareRows keys a b).isLE ∨ (compareRows keys b a).isLE) ∧
      (∀ a b, compareRows keys b a = (compareRows keys a b).swap) ∧
      ∀ a b c, (compareRows keys a b).isLE → (compareRows keys b c).isLE →
        (compareRows keys a c).isLE) ∧
    ∀ rows ys, Arranges (compareRows keys) rows ys ↔ ys = applyOrder keys rows :=
  ⟨⟨fun _ => ReflCmp.compare_self, isLE_total, fun _ _ => OrientedCmp.eq_swap,
    fun _ _ _ => TransCmp.isLE_trans⟩, fun _ _ => arranges_iff⟩

def textRow (var text : String) : Binding := Dictionary.ofList [(var, .literal (.plain text))]

theorem arranges_applyOrder_mixed :
    let keys : List OrderKey := [⟨"n", true⟩]
    let n := textRow "n"
    ((compareRows keys .empty (n "9")).isLE ∧ (compareRows keys (n "9") (n "abc")).isLE) ∧
    (compareRows keys .empty (n "abc")).isLE ∧
    applyOrder keys [n "abc", n "10", .empty, n "9", n "010"] =
      [.empty, n "9", n "10", n "010", n "abc"] := by
  intro keys n
  obtain ⟨⟨-, -, -, htrans⟩, harranges⟩ := arranges_applyOrder_iff keys
  have h₁ : (compareRows keys .empty (n "9")).isLE := by decide +kernel
  have h₂ : (compareRows keys (n "9") (n "abc")).isLE := by decide +kernel
  refine ⟨⟨h₁, h₂⟩, htrans _ _ _ h₁ h₂, ((harranges _ _).1 ⟨?_, ?_, ?_⟩).symm⟩
  all_goals decide +kernel

end LinkedRaces
