import LinkedRaces.Dictionary

/-! Dictionaries and their entries: what is in them, and how they are built up again. -/

namespace LinkedRaces.Dictionary

variable {β : Type}

theorem ext_entries {d e : Dictionary β} (h : d.entries = e.entries) : d = e := by
  cases d
  cases e
  simpa using h

theorem lookupEntry_of_mem {entries : List (String × β)} (hnodup : (entries.map Prod.fst).Nodup)
    {k : String} {v : β} (h : (k, v) ∈ entries) : lookupEntry k entries = some v := by
  induction entries with
  | nil => cases h
  | cons e rest ih =>
    obtain ⟨hk, hrest⟩ := List.nodup_cons.1 hnodup
    rcases List.mem_cons.1 h with rfl | hmem
    · simp [lookupEntry]
    · have hne : e.1 ≠ k := by
        rintro rfl
        exact hk (List.mem_map.2 ⟨_, hmem, rfl⟩)
      simp [lookupEntry, hne, ih hrest hmem]

theorem get?_of_mem {d : Dictionary β} {k : String} {v : β} (h : (k, v) ∈ d.entries) :
    d.get? k = some v :=
  lookupEntry_of_mem d.nodup h

theorem mem_of_lookupEntry {entries : List (String × β)} {k : String} {v : β}
    (h : lookupEntry k entries = some v) : (k, v) ∈ entries := by
  induction entries with
  | nil => cases h
  | cons e rest ih =>
    by_cases hk : e.1 = k
    · obtain rfl : e.2 = v := by simpa [lookupEntry, hk] using h
      subst hk
      exact List.mem_cons_self
    · exact List.mem_cons_of_mem _ (ih (by simpa [lookupEntry, hk] using h))

theorem mem_of_get? {d : Dictionary β} {k : String} {v : β} (h : d.get? k = some v) :
    (k, v) ∈ d.entries :=
  mem_of_lookupEntry h

theorem mem_insertEntry {entries : List (String × β)} {k : String} {v : β} {e : String × β}
    (h : e ∈ insertEntry k v entries) : e = (k, v) ∨ e ∈ entries := by
  induction entries with
  | nil => simpa [insertEntry] using h
  | cons f entries ih => grind [insertEntry]

theorem mem_insertAll {d : Dictionary β} {entries : List (String × β)} {e : String × β}
    (h : e ∈ (d.insertAll entries).entries) : e ∈ d.entries ∨ e ∈ entries := by
  induction entries generalizing d with
  | nil => exact .inl h
  | cons f entries ih =>
    rcases ih h with h | h
    · rcases mem_insertEntry h with rfl | h
      · exact .inr List.mem_cons_self
      · exact .inl h
    · exact .inr (List.mem_cons_of_mem f h)

theorem mem_ofList {entries : List (String × β)} {e : String × β}
    (h : e ∈ (ofList entries).entries) : e ∈ entries :=
  (mem_insertAll h).resolve_left List.not_mem_nil

theorem insertEntry_of_notMem {entries : List (String × β)} {k : String}
    (h : k ∉ entries.map Prod.fst) (v : β) : insertEntry k v entries = entries ++ [(k, v)] := by
  induction entries with
  | nil => rfl
  | cons e rest ih =>
    simp only [List.map_cons, List.mem_cons, not_or] at h
    simp [insertEntry, Ne.symm h.1, ih h.2]

theorem entries_insertAll {d : Dictionary β} {entries : List (String × β)}
    (h : ((d.entries ++ entries).map Prod.fst).Nodup) :
    (d.insertAll entries).entries = d.entries ++ entries := by
  induction entries generalizing d with
  | nil => simp [insertAll]
  | cons e rest ih =>
    have hnew : e.1 ∉ d.entries.map Prod.fst := by
      intro hmem
      rw [List.map_append] at h
      exact (List.nodup_append.1 h).2.2 e.1 hmem e.1 (by simp) rfl
    have hinsert : (d.insert e.1 e.2).entries = d.entries ++ [e] := insertEntry_of_notMem hnew e.2
    have hrest : (((d.insert e.1 e.2).entries ++ rest).map Prod.fst).Nodup := by
      rw [hinsert, List.append_assoc]
      exact h
    show ((d.insert e.1 e.2).insertAll rest).entries = _
    rw [ih hrest, hinsert, List.append_assoc]
    rfl

theorem insertAll_empty (d : Dictionary β) : empty.insertAll d.entries = d :=
  ext_entries (entries_insertAll (by simpa [empty] using d.nodup))

theorem lookupEntry_append (k : String) (es fs : List (String × β)) :
    lookupEntry k (es ++ fs) = (lookupEntry k es).or (lookupEntry k fs) := by
  induction es with
  | nil => rfl
  | cons e es ih =>
    by_cases hk : e.1 = k
    · simp [lookupEntry, hk]
    · simp [lookupEntry, hk, ih]

theorem lookupEntry_filter (p : String → Bool) (k : String) (es : List (String × β)) :
    lookupEntry k (es.filter (p ·.1)) = if p k then lookupEntry k es else none := by
  induction es with
  | nil => simp [lookupEntry]
  | cons e es ih =>
    by_cases hk : e.1 = k
    · subst hk
      by_cases hp : p e.1 <;> simp [lookupEntry, hp, ih]
    · by_cases hp : p e.1 <;> simp [lookupEntry, hk, hp, ih]

theorem contains_iff_mem_keys {d : Dictionary β} {k : String} :
    d.contains k ↔ k ∈ d.entries.map Prod.fst := by
  unfold contains get?
  induction d.entries with
  | nil => simp [lookupEntry]
  | cons e es ih =>
    by_cases hk : e.1 = k
    · simp [lookupEntry, hk]
    · simpa [lookupEntry, hk, Ne.symm hk] using ih

/-- The entries of `d`, then those of `e` whose names `d` does not have. -/
def union (d e : Dictionary β) : Dictionary β where
  entries := d.entries ++ e.entries.filter fun entry => !d.contains entry.1
  nodup := by
    rw [List.map_append]
    refine List.nodup_append.2 ⟨d.nodup, ?_, ?_⟩
    · exact e.nodup.sublist (List.filter_sublist.map Prod.fst)
    · rintro k hk _ hmem rfl
      obtain ⟨entry, hentry, rfl⟩ := List.mem_map.1 hmem
      have hnot := (List.mem_filter.1 hentry).2
      rw [contains_iff_mem_keys.2 hk] at hnot
      exact absurd hnot (by decide)

@[simp] theorem get?_union (d e : Dictionary β) (k : String) :
    (d.union e).get? k = (d.get? k).or (e.get? k) := by
  unfold get? union
  rw [lookupEntry_append, lookupEntry_filter fun k => !d.contains k]
  unfold contains get?
  cases lookupEntry k d.entries <;> simp

theorem contains_union (d e : Dictionary β) (k : String) :
    (d.union e).contains k = (d.contains k || e.contains k) := by
  simp [contains]

@[simp] theorem empty_union (d : Dictionary β) : empty.union d = d :=
  ext_entries (by simp [union, empty, contains, get?, lookupEntry])

@[simp] theorem union_empty (d : Dictionary β) : d.union empty = d :=
  ext_entries (by simp [union, empty])

theorem union_assoc (d e f : Dictionary β) : (d.union e).union f = d.union (e.union f) := by
  refine ext_entries ?_
  simp only [union, List.append_assoc, List.filter_append, List.filter_filter]
  congr 2
  refine List.filter_congr fun entry _ => ?_
  show (!(d.union e).contains entry.1) = _
  rw [contains_union, Bool.not_or]

def Compatible (d e : Dictionary β) : Prop :=
  ∀ k v w, d.get? k = some v → e.get? k = some w → v = w

theorem compatible_iff_entries {d e : Dictionary β} :
    d.Compatible e ↔ ∀ entry ∈ d.entries, ∀ w, e.get? entry.1 = some w → entry.2 = w := by
  constructor
  · intro h entry hentry w hw
    exact h entry.1 entry.2 w (get?_of_mem hentry) hw
  · intro h k v w hv hw
    exact h (k, v) (mem_of_get? hv) w hw

instance [DecidableEq β] (d e : Dictionary β) : Decidable (d.Compatible e) :=
  decidable_of_iff (∀ entry ∈ d.entries, e.get? entry.1 ∈ [none, some entry.2]) (by
    rw [compatible_iff_entries]
    refine forall₂_congr fun entry _ => ?_
    cases e.get? entry.1 <;> simp [eq_comm])

theorem compatible_union_left {d e f : Dictionary β} (h : d.Compatible e) :
    (d.union e).Compatible f ↔ d.Compatible f ∧ e.Compatible f := by
  constructor
  · intro hf
    refine ⟨fun k v w hv hw => hf k v w (by simp [hv]) hw, fun k v w hv hw => ?_⟩
    cases hd : d.get? k with
    | none => exact hf k v w (by simp [hd, hv]) hw
    | some u => exact (h k u v hd hv).symm.trans (hf k u w (by simp [hd]) hw)
  · rintro ⟨hd, he⟩ k v w hv hw
    rw [get?_union, Option.or_eq_some_iff] at hv
    rcases hv with hv | ⟨-, hv⟩
    · exact hd k v w hv hw
    · exact he k v w hv hw

theorem Compatible.symm {d e : Dictionary β} (h : d.Compatible e) : e.Compatible d :=
  fun k v w hv hw => (h k w v hw hv).symm

theorem compatible_union_right {d e f : Dictionary β} (h : e.Compatible f) :
    d.Compatible (e.union f) ↔ d.Compatible e ∧ d.Compatible f := by
  constructor
  · intro hd
    obtain ⟨he, hf⟩ := (compatible_union_left h).1 hd.symm
    exact ⟨he.symm, hf.symm⟩
  · rintro ⟨he, hf⟩
    exact ((compatible_union_left h).2 ⟨he.symm, hf.symm⟩).symm

theorem compatible_single {d : Dictionary β} {name : String} {value : β} :
    d.Compatible (empty.insert name value) ↔ ∀ known, d.get? name = some known → known = value := by
  constructor
  · intro h known hknown
    exact h name known value hknown (by simp)
  · intro h k v w hv hw
    rw [get?_insert] at hw
    split at hw
    next hk =>
      rw [hk] at hv
      exact (h v hv).trans (Option.some.inj hw)
    next => cases hw

theorem union_single_of_none {d : Dictionary β} {name : String} (h : d.get? name = none)
    (value : β) : d.union (empty.insert name value) = d.insert name value := by
  have hnew : name ∉ d.entries.map Prod.fst := by
    rw [← contains_iff_mem_keys]
    simp [contains, h]
  have hinsert : (d.insert name value).entries = d.entries ++ [(name, value)] :=
    insertEntry_of_notMem hnew value
  refine ext_entries ?_
  rw [hinsert]
  simp [union, insert, insertEntry, empty, contains, h]

theorem union_single_of_some {d : Dictionary β} {name : String} {known : β}
    (h : d.get? name = some known) (value : β) : d.union (empty.insert name value) = d :=
  ext_entries (by simp [union, insert, insertEntry, empty, contains, h])

def mapValues {γ : Type} (f : β → γ) (d : Dictionary β) : Dictionary γ where
  entries := d.entries.map fun e => (e.1, f e.2)
  nodup := by simpa [Function.comp_def] using d.nodup

@[simp] theorem get?_mapValues {γ : Type} (f : β → γ) (d : Dictionary β) (k : String) :
    (d.mapValues f).get? k = (d.get? k).map f := by
  show lookupEntry k (d.entries.map fun e => (e.1, f e.2)) = (lookupEntry k d.entries).map f
  induction d.entries with
  | nil => rfl
  | cons e es ih =>
    by_cases hk : e.1 = k
    · simp [lookupEntry, hk]
    · simpa [lookupEntry, hk] using ih

theorem mapValues_eq_self {f : β → β} {d : Dictionary β} (h : ∀ e ∈ d.entries, f e.2 = e.2) :
    d.mapValues f = d := by
  refine ext_entries ?_
  calc d.entries.map (fun e => (e.1, f e.2))
      = d.entries.map id := List.map_congr_left fun e he => Prod.ext rfl (h e he)
    _ = d.entries := List.map_id d.entries

end LinkedRaces.Dictionary
