import LinkedRaces.Grouping
import Mathlib.Data.List.Perm.Basic
import Mathlib.Data.List.Triplewise

/-!
What grouping keeps: every element once, the order within a group, and groups that are already
together. Grouping a second time changes nothing. The groups behind one another are the only list
that gathers the elements of each key and keeps the order of the keys and of the elements of a key.
-/

namespace LinkedRaces

variable {α κ : Type} [DecidableEq κ] {key : α → κ}

theorem groupBy_cons (x : α) (xs : List α) :
    groupBy key (x :: xs) =
      (key x, x :: xs.filter (key · == key x)) :: groupBy key (xs.filter fun y => !key y == key x) := by
  have hkeys : (xs.filter fun y => !key y == key x).map key =
      (xs.map key).filter fun k => !k == key x := by
    rw [List.filter_map]
    rfl
  rw [groupBy, List.map_cons, List.eraseDups_cons, List.map_cons, groupBy, hkeys]
  congr 1
  · simp
  · refine List.map_congr_left fun k hk => ?_
    have hne : k ≠ key x := by simpa using (List.mem_filter.1 (List.mem_eraseDups.1 hk)).2
    have hx : (key x == k) = false := by simpa using hne.symm
    rw [List.filter_cons_of_neg (by simp [hx]), List.filter_filter]
    congr 1
    refine List.filter_congr fun y _ => ?_
    by_cases hy : key y = k
    · simp [hy, hne]
    · simp [hy]

theorem mem_of_mem_groupBy {xs : List α} {g : κ × List α} (hg : g ∈ groupBy key xs) {x : α}
    (hx : x ∈ g.2) : x ∈ xs := by
  obtain ⟨k, -, rfl⟩ := List.mem_map.1 hg
  exact (List.mem_filter.1 hx).1

theorem group_induction (key : α → κ) {P : List α → Prop} (nil : P [])
    (cons : ∀ x xs, P (xs.filter fun y => !key y == key x) → P (x :: xs)) (xs : List α) : P xs := by
  match xs with
  | [] => exact nil
  | x :: xs => exact cons x xs (group_induction key nil cons _)
termination_by xs.length
decreasing_by exact Nat.lt_succ_of_le (List.length_filter_le ..)

/-- Each element stands in one group, and each group only holds elements of its key. -/
structure Grouped (key : α → κ) (gs : List (κ × List α)) : Prop where
  nodup : (gs.map Prod.fst).Nodup
  nonempty : ∀ g ∈ gs, g.2 ≠ []
  key_eq : ∀ g ∈ gs, ∀ x ∈ g.2, key x = g.1

omit [DecidableEq κ] in
theorem Grouped.of_cons {g : κ × List α} {gs : List (κ × List α)} (h : Grouped key (g :: gs)) :
    Grouped key gs :=
  ⟨(List.nodup_cons.1 h.nodup).2, fun g hg => h.nonempty g (List.mem_cons_of_mem _ hg),
    fun g hg => h.key_eq g (List.mem_cons_of_mem _ hg)⟩

omit [DecidableEq κ] in
theorem Grouped.key_ne {g : κ × List α} {gs : List (κ × List α)} (h : Grouped key (g :: gs)) :
    ∀ y ∈ gs.flatMap Prod.snd, key y ≠ g.1 := by
  intro y hy hkey
  obtain ⟨g', hg', hy⟩ := List.mem_flatMap.1 hy
  refine (List.nodup_cons.1 h.nodup).1 (List.mem_map.2 ⟨g', hg', ?_⟩)
  rw [← h.of_cons.key_eq g' hg' y hy, hkey]

theorem mem_keys_groupBy {k : κ} {xs : List α} :
    k ∈ (groupBy key xs).map Prod.fst ↔ ∃ x ∈ xs, key x = k := by
  simp [groupBy]

theorem grouped_groupBy (key : α → κ) (xs : List α) : Grouped key (groupBy key xs) := by
  induction xs using group_induction key with
  | nil => exact ⟨List.nodup_nil, nofun, nofun⟩
  | cons x xs ih =>
    rw [groupBy_cons]
    refine ⟨?_, ?_, ?_⟩
    · refine List.nodup_cons.2 ⟨fun hx => ?_, ih.nodup⟩
      obtain ⟨y, hy, hkey⟩ := mem_keys_groupBy.1 hx
      simpa [hkey] using (List.mem_filter.1 hy).2
    · exact List.forall_mem_cons.2 ⟨by simp, ih.nonempty⟩
    · refine List.forall_mem_cons.2 ⟨?_, ih.key_eq⟩
      simp +contextual

theorem nodup_eraseDups (ks : List κ) : ks.eraseDups.Nodup := by
  have hkeys : (groupBy id ks).map Prod.fst = ks.eraseDups := by simp [groupBy, Function.comp_def]
  have hnodup := (grouped_groupBy id ks).nodup
  rwa [hkeys] at hnodup

theorem eraseDups_map {g : α → κ} (hg : Function.Injective g) [DecidableEq α] (xs : List α) :
    (xs.map g).eraseDups = xs.eraseDups.map g := by
  induction xs using group_induction (id : α → α) with
  | nil => rfl
  | cons x xs ih =>
    simp only [id_eq] at ih
    have hothers : (xs.map g).filter (fun y => !y == g x) = (xs.filter fun y => !y == x).map g := by
      rw [List.filter_map]
      refine congrArg (List.map g) (List.filter_congr fun y _ => ?_)
      by_cases h : y = x <;> simp [h, hg.eq_iff]
    rw [List.map_cons, List.eraseDups_cons, List.eraseDups_cons, List.map_cons, hothers, ih]

theorem exists_mem_of_mem_groupBy {xs : List α} {g : κ × List α} (hg : g ∈ groupBy key xs) :
    ∃ x ∈ xs, key x = g.1 := by
  obtain ⟨x, hx⟩ := List.exists_mem_of_ne_nil _ ((grouped_groupBy key xs).nonempty g hg)
  exact ⟨x, mem_of_mem_groupBy hg hx, (grouped_groupBy key xs).key_eq g hg x hx⟩

theorem forall_mem_groupBy {P : α → Prop} {xs : List α} (h : ∀ x ∈ xs, P x) {g : κ × List α}
    (hg : g ∈ groupBy key xs) : ∀ x ∈ g.2, key x = g.1 ∧ P x :=
  fun x hx => ⟨(grouped_groupBy key xs).key_eq g hg x hx, h x (mem_of_mem_groupBy hg hx)⟩

/-- Groups that stand one behind the other are found again. -/
theorem groupBy_flatMap {gs : List (κ × List α)} (h : Grouped key gs) :
    groupBy key (gs.flatMap Prod.snd) = gs := by
  induction gs with
  | nil => rfl
  | cons g gs ih =>
    obtain ⟨k, ys⟩ := g
    have hys : ∀ y ∈ ys, key y = k := h.key_eq (k, ys) List.mem_cons_self
    have hother : ∀ y ∈ gs.flatMap Prod.snd, key y ≠ k := h.key_ne
    cases ys with
    | nil => exact absurd rfl (h.nonempty (k, []) List.mem_cons_self)
    | cons y ys =>
      obtain ⟨rfl, hys⟩ := List.forall_mem_cons.1 hys
      have hsame : (ys ++ gs.flatMap Prod.snd).filter (key · == key y) = ys := by
        rw [List.filter_append, List.filter_eq_self.2 (by simpa using hys),
          List.filter_eq_nil_iff.2 (by simpa using hother), List.append_nil]
      have hdiff : (ys ++ gs.flatMap Prod.snd).filter (fun z => !key z == key y) =
          gs.flatMap Prod.snd := by
        rw [List.filter_append, List.filter_eq_nil_iff.2 (by simpa using hys),
          List.filter_eq_self.2 (by simpa using hother), List.nil_append]
      rw [List.flatMap_cons, List.cons_append, groupBy_cons, hsame, hdiff, ih h.of_cons]

theorem perm_flatMap_groupBy (key : α → κ) (xs : List α) :
    ((groupBy key xs).flatMap Prod.snd).Perm xs := by
  induction xs using group_induction key with
  | nil => exact .nil
  | cons x xs ih =>
    rw [groupBy_cons, List.flatMap_cons, List.cons_append]
    exact ((ih.append_left _).trans (List.filter_append_perm _ xs)).cons x

/-- Between two elements of one key stands no other. -/
def Contiguous (key : α → κ) (xs : List α) : Prop :=
  xs.Triplewise fun x y z => key x = key z → key y = key x

omit [DecidableEq κ] in
theorem Contiguous.filter {xs : List α} (h : Contiguous key xs) (p : α → Bool) :
    Contiguous key (xs.filter p) := by
  induction xs with
  | nil => exact .nil
  | cons x xs ih =>
    obtain ⟨hx, hxs⟩ := List.triplewise_cons.1 h
    rw [List.filter_cons]
    split
    · exact .cons (hx.filter p) (ih hxs)
    · exact ih hxs

omit [DecidableEq κ] in
theorem Grouped.contiguous {gs : List (κ × List α)} (h : Grouped key gs) :
    Contiguous key (gs.flatMap Prod.snd) := by
  induction gs with
  | nil => exact .nil
  | cons g gs ih =>
    have hg : ∀ x ∈ g.2, key x = g.1 := h.key_eq g List.mem_cons_self
    have hapart : ∀ x ∈ g.2, ∀ z ∈ gs.flatMap Prod.snd, key x ≠ key z :=
      fun x hx z hz hxz => h.key_ne z hz (hxz.symm.trans (hg x hx))
    refine List.triplewise_append.2 ⟨?_, ih h.of_cons, fun x hx => ?_, fun z hz => ?_⟩
    · exact List.triplewise_iff_getElem.2 fun i j k _ _ _ _ =>
        (hg _ (List.getElem_mem _)).trans (hg _ (List.getElem_mem _)).symm
    · exact List.pairwise_of_forall_mem_list fun y _ z hz hxz => absurd hxz (hapart x hx z hz)
    · exact List.pairwise_of_forall_mem_list fun x hx y _ hxz => absurd hxz (hapart x hx z hz)

theorem filter_append_filter_of_pairwise {k : κ} {xs : List α}
    (h : xs.Pairwise fun y z => k = key z → key y = k) :
    xs.filter (key · == k) ++ xs.filter (fun y => !key y == k) = xs := by
  induction xs with
  | nil => rfl
  | cons y ys ih =>
    obtain ⟨hy, hys⟩ := List.pairwise_cons.1 h
    by_cases hk : key y = k
    · simp [hk, ih hys]
    · have hother : ∀ z ∈ y :: ys, key z ≠ k :=
        List.forall_mem_cons.2 ⟨hk, fun z hz hkz => hk (hy z hz hkz.symm)⟩
      rw [List.filter_eq_nil_iff.2 (by simpa using hother),
        List.filter_eq_self.2 (by simpa using hother), List.nil_append]

theorem Contiguous.flatMap_groupBy {xs : List α} (h : Contiguous key xs) :
    (groupBy key xs).flatMap Prod.snd = xs := by
  induction xs using group_induction key with
  | nil => rfl
  | cons x xs ih =>
    obtain ⟨hx, hxs⟩ := List.triplewise_cons.1 h
    rw [groupBy_cons, List.flatMap_cons, ih (Contiguous.filter hxs _), List.cons_append,
      filter_append_filter_of_pairwise hx]

/-- The elements of `xs` with those of one key together. The keys keep the order in which they first
occur, and the elements of a key the order in which they stand. -/
structure Gathered (key : α → κ) (xs ys : List α) : Prop where
  contiguous : Contiguous key ys
  keys : (ys.map key).eraseDups = (xs.map key).eraseDups
  stable : ∀ k, ys.filter (key · == k) = xs.filter (key · == k)

/-- Groups that are those of another list but for what `f` does to each. -/
theorem keys_and_filter_of_groupBy {xs ys : List α} {f : List α → List α} (hf : f [] = [])
    (h : groupBy key ys = (groupBy key xs).map fun g => (g.1, f g.2)) :
    (ys.map key).eraseDups = (xs.map key).eraseDups ∧
      ∀ k, ys.filter (key · == k) = f (xs.filter (key · == k)) := by
  have hkeys : (ys.map key).eraseDups = (xs.map key).eraseDups := by
    simpa [groupBy, Function.comp_def] using congrArg (List.map Prod.fst) h
  refine ⟨hkeys, fun k => ?_⟩
  by_cases hk : k ∈ xs.map key
  · rw [groupBy, groupBy, hkeys, List.map_map, List.map_inj_left] at h
    exact (Prod.mk.inj (h k (List.mem_eraseDups.2 hk))).2
  · have hk' : k ∉ ys.map key := by rwa [← List.mem_eraseDups, hkeys, List.mem_eraseDups]
    have hnone {zs : List α} (hz : k ∉ zs.map key) : zs.filter (key · == k) = [] :=
      List.filter_eq_nil_iff.2 fun z hzs hzk =>
        hz (List.mem_map.2 ⟨z, hzs, beq_iff_eq.1 hzk⟩)
    rw [hnone hk, hnone hk', hf]

theorem gathered_iff {xs ys : List α} :
    Gathered key xs ys ↔ ys = (groupBy key xs).flatMap Prod.snd := by
  constructor
  · intro h
    rw [← h.contiguous.flatMap_groupBy]
    simp only [groupBy, h.keys, h.stable]
  · rintro rfl
    have hgroups := groupBy_flatMap (grouped_groupBy key xs)
    have hsame : groupBy key ((groupBy key xs).flatMap Prod.snd) =
        (groupBy key xs).map fun g => (g.1, id g.2) := by simp [hgroups]
    obtain ⟨hkeys, hfilter⟩ := keys_and_filter_of_groupBy rfl hsame
    exact ⟨(grouped_groupBy key xs).contiguous, hkeys, hfilter⟩

end LinkedRaces
