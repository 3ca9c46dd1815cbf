import BusDoc.OrderedMap

/-!
# Caches

What was computed once per key and is never dropped. The first value stored under a key stays.
-/

namespace BusDoc

/-- Values by key. -/
structure Cache (κ α : Type) where
  known : OrderedMap κ α

namespace Cache

variable {κ α : Type} [DecidableEq κ]

/-- The cache that knows nothing. -/
def empty : Cache κ α := ⟨OrderedMap.empty⟩

/-- The key has a value. -/
def contains (c : Cache κ α) (k : κ) : Bool := c.known.contains k

/-- The number of keys with a value. -/
def length (c : Cache κ α) : Nat := c.known.length

/-- The value of a key, computed and stored if the cache does not know it. -/
def resolve (c : Cache κ α) (k : κ) (compute : Unit → α) : α × Cache κ α :=
  match c.known.get? k with
  | some v => (v, c)
  | none =>
    let v := compute ()
    (v, ⟨c.known.insert k v⟩)

/-- A second look-up gives the value of the first. -/
theorem resolve_resolve (c : Cache κ α) (k : κ) (compute : Unit → α) :
    (c.resolve k compute).2.resolve k compute = c.resolve k compute := by
  cases h : c.known.get? k with
  | some v => simp [resolve, h]
  | none => simp [resolve, h, OrderedMap.get?_insert]

end Cache

end BusDoc
