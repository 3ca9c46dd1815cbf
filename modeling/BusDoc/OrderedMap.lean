/-!
# Maps in insertion order

A map whose entries keep the order in which their keys were first inserted. Inserting under a key
that is there replaces the value in place. The keys are pairwise distinct by construction.

* `get?_insert`: after an insertion the inserted key has the new value and every other key its old
  one.
* `get?_eq_some_iff`: a key has the value of its entry.
* `keys_insert`: an insertion appends a new key and keeps the keys otherwise.
* `entries_insert_of_none`: an insertion under a new key puts one entry behind the others.
* `insert_self`: an insertion of what is there changes nothing.
* `get?_overlay`: a map laid over another hides what that has under the same keys.
* `entries_insertAll`: pairs with new keys, each of them once, are put behind the entries.
* `ofList_entries`: a map is the map of its entries.
-/

namespace BusDoc

variable {κ α : Type}

/-- The entries with `k` mapped to `v`: in place if `k` is a key, else at the end. -/
def insertEntry [DecidableEq κ] (k : κ) (v : α) : List (κ × α) → List (κ × α)
  | [] => [(k, v)]
  | e :: es => if e.1 = k then (k, v) :: es else e :: insertEntry k v es

/-- The value of the first entry with key `k`. -/
def entryOf? [DecidableEq κ] (k : κ) : List (κ × α) → Option α
  | [] => none
  | e :: es => if e.1 = k then some e.2 else entryOf? k es

theorem keys_insertEntry [DecidableEq κ] (k : κ) (v : α) (es : List (κ × α)) :
    (insertEntry k v es).map Prod.fst =
      if k ∈ es.map Prod.fst then es.map Prod.fst else es.map Prod.fst ++ [k] := by
  induction es with
  | nil => simp [insertEntry]
  | cons e es ih =>
    by_cases h : e.1 = k
    · simp [insertEntry, h]
    · by_cases hk : k ∈ es.map Prod.fst
      · simp only [insertEntry, h, if_false, List.map_cons, ih, hk, if_true, List.mem_cons, or_true]
      · simp only [insertEntry, h, if_false, List.map_cons, ih, hk, List.mem_cons, or_false,
          Ne.symm h, List.cons_append]

theorem entryOf?_insertEntry [DecidableEq κ] (k j : κ) (v : α) (es : List (κ × α)) :
    entryOf? j (insertEntry k v es) = if k = j then some v else entryOf? j es := by
  induction es with
  | nil => simp [insertEntry, entryOf?]
  | cons e es ih =>
    by_cases h : e.1 = k <;> by_cases hj : k = j <;> grind [insertEntry, entryOf?]

theorem mem_keys_of_entryOf? [DecidableEq κ] {k : κ} {v : α} {es : List (κ × α)}
    (h : entryOf? k es = some v) : (k, v) ∈ es := by
  induction es with
  | nil => simp [entryOf?] at h
  | cons e es ih =>
    simp only [entryOf?] at h
    split at h
    next hk => simp only [Option.some.injEq] at h; simp [← hk, ← h]
    next => exact List.mem_cons_of_mem _ (ih h)

theorem entryOf?_eq_none_iff [DecidableEq κ] {k : κ} {es : List (κ × α)} :
    entryOf? k es = none ↔ k ∉ es.map Prod.fst := by
  induction es with
  | nil => simp [entryOf?]
  | cons e es ih =>
    rw [entryOf?, List.map_cons, List.mem_cons, not_or, ← ih]
    by_cases h : e.1 = k
    · simp [h]
    · simp [h, Ne.symm h]

/-- Where keys come once, a key has the value that it is paired with. -/
theorem entryOf?_eq_some_iff [DecidableEq κ] {k : κ} {v : α} {es : List (κ × α)}
    (hes : (es.map Prod.fst).Nodup) : entryOf? k es = some v ↔ (k, v) ∈ es := by
  refine ⟨mem_keys_of_entryOf?, fun h => ?_⟩
  induction es with
  | nil => cases h
  | cons e es ih =>
    rw [List.map_cons, List.nodup_cons] at hes
    rw [entryOf?]
    rcases List.mem_cons.1 h with rfl | h
    · rw [if_pos rfl]
    · have hne : e.1 ≠ k := fun he => hes.1 (he ▸ List.mem_map_of_mem h)
      rw [if_neg hne, ih hes.2 h]

theorem entryOf?_append_of_some [DecidableEq κ] {k : κ} {v : α} {es fs : List (κ × α)}
    (h : entryOf? k es = some v) : entryOf? k (es ++ fs) = some v := by
  induction es with
  | nil => cases h
  | cons e es ih =>
    rw [entryOf?] at h
    rw [List.cons_append, entryOf?]
    split at h
    next hk => rw [if_pos hk, h]
    next hk => rw [if_neg hk, ih h]

theorem insertEntry_of_none [DecidableEq κ] {k : κ} {v : α} {es : List (κ × α)}
    (h : entryOf? k es = none) : insertEntry k v es = es ++ [(k, v)] := by
  induction es with
  | nil => rfl
  | cons e es ih =>
    rw [entryOf?] at h
    split at h
    next => cases h
    next hk => rw [insertEntry, if_neg hk, ih h, List.cons_append]

theorem insertEntry_of_some [DecidableEq κ] {k : κ} {v : α} {es : List (κ × α)}
    (h : entryOf? k es = some v) : insertEntry k v es = es := by
  induction es with
  | nil => cases h
  | cons e es ih =>
    rw [entryOf?] at h
    rw [insertEntry]
    split at h
    next hk => rw [if_pos hk, ← hk, ← Option.some.inj h]
    next hk => rw [if_neg hk, ih h]

/-- A map from keys to values that remembers the order of insertion. -/
structure OrderedMap (κ α : Type) where
  entries : List (κ × α)
  keys_nodup : (entries.map Prod.fst).Nodup

namespace OrderedMap

instance [Repr κ] [Repr α] : Repr (OrderedMap κ α) := ⟨fun m p => reprPrec m.entries p⟩

theorem ext {m n : OrderedMap κ α} (h : m.entries = n.entries) : m = n := by
  cases m; cases n; cases h; rfl

instance [DecidableEq κ] [DecidableEq α] : DecidableEq (OrderedMap κ α) := fun m n =>
  if h : m.entries = n.entries then isTrue (ext h) else isFalse fun e => h (e ▸ rfl)

/-- The map without entries. -/
def empty : OrderedMap κ α := ⟨[], List.Pairwise.nil⟩

instance : Inhabited (OrderedMap κ α) := ⟨empty⟩

/-- The keys, in insertion order. -/
def keys (m : OrderedMap κ α) : List κ := m.entries.map Prod.fst

/-- The values, in insertion order of their keys. -/
def values (m : OrderedMap κ α) : List α := m.entries.map Prod.snd

/-- The number of entries. -/
def length (m : OrderedMap κ α) : Nat := m.entries.length

/-- The map has no entry. -/
def isEmpty (m : OrderedMap κ α) : Bool := m.entries.isEmpty

/-- The map with every value changed by `f`. -/
def mapValues {β : Type} (f : α → β) (m : OrderedMap κ α) : OrderedMap κ β where
  entries := m.entries.map fun e => (e.1, f e.2)
  keys_nodup := by simpa [List.map_map, Function.comp_def] using m.keys_nodup

variable [DecidableEq κ]

/-- The value of a key. -/
def get? (m : OrderedMap κ α) (k : κ) : Option α := entryOf? k m.entries

/-- The key has a value. -/
def contains (m : OrderedMap κ α) (k : κ) : Bool := (m.get? k).isSome

/-- The map with `k` mapped to `v`. -/
def insert (m : OrderedMap κ α) (k : κ) (v : α) : OrderedMap κ α where
  entries := insertEntry k v m.entries
  keys_nodup := by
    rw [keys_insertEntry]
    split
    next => exact m.keys_nodup
    next h => exact List.nodup_append.2 ⟨m.keys_nodup, by simp, by
      intro a ha b hb
      simp only [List.mem_cons, List.not_mem_nil, or_false] at hb
      exact fun e => h (hb ▸ e ▸ ha)⟩

/-- All pairs inserted in order into a map. -/
def insertAll (m : OrderedMap κ α) (es : List (κ × α)) : OrderedMap κ α :=
  es.foldl (fun m e => m.insert e.1 e.2) m

/-- The map with all entries of another laid over it. -/
def overlay (m n : OrderedMap κ α) : OrderedMap κ α := m.insertAll n.entries

/-- The map of the pairs: a repeated key keeps its first position and its last value. -/
def ofList (es : List (κ × α)) : OrderedMap κ α := empty.insertAll es

theorem get?_insert (m : OrderedMap κ α) (k j : κ) (v : α) :
    (m.insert k v).get? j = if k = j then some v else m.get? j :=
  entryOf?_insertEntry k j v m.entries

theorem get?_eq_some_iff {m : OrderedMap κ α} {k : κ} {v : α} :
    m.get? k = some v ↔ (k, v) ∈ m.entries := entryOf?_eq_some_iff m.keys_nodup

theorem keys_insert (m : OrderedMap κ α) (k : κ) (v : α) :
    (m.insert k v).keys = if k ∈ m.keys then m.keys else m.keys ++ [k] :=
  keys_insertEntry k v m.entries

theorem entries_insert_of_none {m : OrderedMap κ α} {k : κ} (h : m.get? k = none) (v : α) :
    (m.insert k v).entries = m.entries ++ [(k, v)] := insertEntry_of_none h

theorem insert_self {m : OrderedMap κ α} {k : κ} {v : α} (h : m.get? k = some v) :
    m.insert k v = m := ext (insertEntry_of_some h)

theorem get?_insertAll (m : OrderedMap κ α) {es : List (κ × α)} (h : (es.map Prod.fst).Nodup)
    (k : κ) : (m.insertAll es).get? k = (entryOf? k es).or (m.get? k) := by
  induction es generalizing m with
  | nil => rfl
  | cons e es ih =>
    rw [List.map_cons, List.nodup_cons] at h
    show ((m.insert e.1 e.2).insertAll es).get? k = _
    rw [ih _ h.2, get?_insert, entryOf?]
    by_cases hk : e.1 = k
    · -- the key comes once, so no later pair replaces the value
      have hlast : entryOf? k es = none := entryOf?_eq_none_iff.2 (hk ▸ h.1)
      rw [hlast, if_pos hk, if_pos hk]
      rfl
    · rw [if_neg hk, if_neg hk]

theorem get?_overlay (m n : OrderedMap κ α) (k : κ) :
    (m.overlay n).get? k = (n.get? k).or (m.get? k) := m.get?_insertAll n.keys_nodup k

theorem entries_insertAll (m : OrderedMap κ α) {es : List (κ × α)} (h : (es.map Prod.fst).Nodup)
    (hnew : ∀ e ∈ es, m.get? e.1 = none) : (m.insertAll es).entries = m.entries ++ es := by
  induction es generalizing m with
  | nil => exact (List.append_nil _).symm
  | cons e es ih =>
    rw [List.map_cons, List.nodup_cons] at h
    have hrest : ∀ e' ∈ es, (m.insert e.1 e.2).get? e'.1 = none := fun e' he' => by
      have hne : e.1 ≠ e'.1 := fun heq => h.1 (heq ▸ List.mem_map_of_mem he')
      rw [get?_insert, if_neg hne, hnew e' (List.mem_cons_of_mem _ he')]
    show ((m.insert e.1 e.2).insertAll es).entries = _
    rw [ih _ h.2 hrest, entries_insert_of_none (hnew e List.mem_cons_self), List.append_assoc]
    rfl

theorem entries_ofList {es : List (κ × α)} (h : (es.map Prod.fst).Nodup) :
    (ofList es).entries = es := entries_insertAll empty h fun _ _ => rfl

theorem ofList_entries (m : OrderedMap κ α) : ofList m.entries = m :=
  ext (entries_ofList m.keys_nodup)

end OrderedMap

end BusDoc
