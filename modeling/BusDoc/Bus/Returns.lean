import BusDoc.Value.Convert

/-!
# Results of calls

The values that a call returned are taken one by one, each at the type that is wanted. A value is
used up even if it does not convert.
-/

namespace BusDoc

/-- The values that a call returned, some of them taken. -/
structure Returns where
  method : String
  /-- The values not taken yet. -/
  rest : List Variant
  /-- The number of values taken. -/
  taken : Nat := 0
  deriving Repr

namespace Returns

/-- The values that a call has just returned. -/
def ofValues (method : String) (values : List Variant) : Returns := { method, rest := values }

/-- The number of values not taken yet. -/
def remaining (r : Returns) : Nat := r.rest.length

/-- The number of values that the call returned. -/
def received (r : Returns) : Nat := r.taken + r.rest.length

/-- The next value at a type. -/
def take (r : Returns) (t : FieldType) : Except MarshalError t.Carrier × Returns :=
  match r.rest with
  | [] => (.error (.missingReturn r.method r.taken r.received), r)
  | v :: rest =>
    (v.convertFor s!"{r.method}#{r.taken}" t, { r with rest, taken := r.taken + 1 })

theorem received_take (r : Returns) (t : FieldType) : (r.take t).2.received = r.received := by
  cases h : r.rest with
  | nil => simp [take, h]
  | cons v rest => simp [take, received, h]; omega

end Returns

end BusDoc
