/-! Finite maps from names to values that keep the order in which the names first came. -/

namespace LinkedRaces

structure Dictionary (β : Type) where
  entries : List (String × β)
  nodup : (entries.map Prod.fst).Nodup
deriving DecidableEq, Repr

namespace Dictionary

variable {β : Type}

def empty : Dictionary β := ⟨[], .nil⟩

instance : Inhabited (Dictionary β) := ⟨empty⟩
instance : EmptyCollection (Dictionary β) := ⟨empty⟩

def keys (d : Dictionary β) : List String := d.entries.map Prod.fst

def size (d : Dictionary β) : Nat := d.entries.length

def lookupEntry (key : String) : List (String × β) → Option β
  | [] => none
  | (k, v) :: rest => if k = key then some v else lookupEntry key rest

def get? (d : Dictionary β) (key : String) : Option β := lookupEntry key d.entries

def contains (d : Dictionary β) (key : String) : Bool := (d.get? key).isSome

def insertEntry (key : String) (value : β) : List (String × β) → List (String × β)
  | [] => [(key, value)]
  | (k, v) :: rest => if k = key then (key, value) :: rest else (k, v) :: insertEntry key value rest

theorem keys_insertEntry (key : String) (value : β) (entries : List (String × β)) :
    (insertEntry key value entries).map Prod.fst =
      if key ∈ entries.map Prod.fst then entries.map Prod.fst
      else entries.map Prod.fst ++ [key] := by
  induction entries with
  | nil => simp [insertEntry]
  | cons e rest ih => grind [insertEntry]

theorem nodup_insertEntry (key : String) (value : β) {entries : List (String × β)}
    (h : (entries.map Prod.fst).Nodup) : ((insertEntry key value entries).map Prod.fst).Nodup := by
  rw [keys_insertEntry]
  split
  · exact h
  next hkey =>
    refine List.nodup_append.2 ⟨h, List.pairwise_singleton .., ?_⟩
    rintro k hk _ hlast rfl
    exact hkey (List.mem_singleton.1 hlast ▸ hk)

/-- A key that is present keeps its place and takes the new value; any other comes last. -/
def insert (d : Dictionary β) (key : String) (value : β) : Dictionary β :=
  ⟨insertEntry key value d.entries, nodup_insertEntry key value d.nodup⟩

def insertAll (d : Dictionary β) (entries : List (String × β)) : Dictionary β :=
  entries.foldl (fun d (key, value) => d.insert key value) d

def ofList (entries : List (String × β)) : Dictionary β := empty.insertAll entries

@[simp] theorem get?_empty (key : String) : (empty : Dictionary β).get? key = none := rfl

theorem lookupEntry_insertEntry (key k : String) (value : β) (entries : List (String × β)) :
    lookupEntry k (insertEntry key value entries) =
      if k = key then some value else lookupEntry k entries := by
  induction entries with
  | nil => grind [insertEntry, lookupEntry]
  | cons e rest ih => grind [insertEntry, lookupEntry]

@[simp] theorem get?_insert (d : Dictionary β) (key k : String) (value : β) :
    (d.insert key value).get? k = if k = key then some value else d.get? k :=
  lookupEntry_insertEntry ..

end Dictionary

end LinkedRaces
