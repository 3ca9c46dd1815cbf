import BusDoc.Bus.Returns
import BusDoc.Proofs.Result

/-!
# Taking the results of a call

The values that a call returned are taken in order, whatever becomes of each of them: a value that
does not convert is used up like one that does, and only the values at the end can be missing.

- **One value** (`take_cons`, `take_nil`): its conversion, with a failure told of its place, or the
  report that it is missing.
- **A run** (`afterTakes_ofValues`): what is left is what the number of takes leaves of the values,
  and the count of values taken stops at their number.
- `take_positional`: what each take of any run gives.
-/

namespace BusDoc

open Result

namespace Variant

variable {field : String} {t : FieldType} {v : Variant}

theorem convertFor_eq_ok_iff {x : t.Carrier} :
    v.convertFor field t = .ok x ↔ v.convert t = .ok x := mapError_eq_ok

/-- A conversion that fails names the field, the type and the kind of the value. -/
theorem convertFor_eq_error_iff {e : MarshalError} :
    v.convertFor field t = .error e ↔
      (∃ e', v.convert t = .error e') ∧ e = .typeMismatch field t v.kind := by
  rw [convertFor, mapError_eq_error, convert]
  cases v.read? t with
  | some x => simp
  | none => simp [MarshalError.forField, eq_comm]

end Variant

namespace Returns

/-- The results after a value of each of the types has been asked for in turn. -/
def afterTakes (r : Returns) (types : List FieldType) : Returns :=
  types.foldl (fun r t => (r.take t).2) r

variable {method : String} {rest : List Variant} {taken : Nat} {v : Variant}

/-! ## One value -/

theorem take_cons (t : FieldType) :
    take ⟨method, v :: rest, taken⟩ t =
      (v.convertFor s!"{method}#{taken}" t, ⟨method, rest, taken + 1⟩) := rfl

theorem take_nil (t : FieldType) :
    take ⟨method, [], taken⟩ t =
      (.error (.missingReturn method taken taken), ⟨method, [], taken⟩) :=
  rfl

/-! ## A run -/

/-- A take moves on by one value if one is left. -/
theorem snd_take_drop (values : List Variant) (k : Nat) (t : FieldType) :
    (take ⟨method, values.drop k, min k values.length⟩ t).2 =
      ⟨method, values.drop (k + 1), min (k + 1) values.length⟩ := by
  by_cases hk : k < values.length
  · rw [List.drop_eq_getElem_cons hk, take_cons, Nat.min_eq_left (by omega),
      Nat.min_eq_left (by omega)]
  · rw [List.drop_eq_nil_of_le (by omega), List.drop_eq_nil_of_le (by omega), take_nil,
      Nat.min_eq_right (by omega), Nat.min_eq_right (by omega)]

theorem afterTakes_ofValues (method : String) (values : List Variant) (types : List FieldType) :
    (ofValues method values).afterTakes types =
      ⟨method, values.drop types.length, min types.length values.length⟩ := by
  -- each take adds one to the number of values dropped, from any number on
  suffices h : ∀ k, afterTakes ⟨method, values.drop k, min k values.length⟩ types =
      ⟨method, values.drop (k + types.length), min (k + types.length) values.length⟩ by
    simpa [ofValues] using h 0
  induction types with
  | nil => intro k; rfl
  | cons t types ih =>
    intro k
    have hlength : k + (t :: types).length = k + 1 + types.length := by
      rw [List.length_cons]
      omega
    rw [afterTakes, List.foldl_cons, snd_take_drop, hlength]
    exact ih (k + 1)

/-- **Results by position.** After any number of takes, whatever their types and outcomes, the next
one uses up the value at that place and gives its conversion to the type asked for; a failure to
convert is told of the place. Behind the last value each take reports a missing value, under the
number of values. After each take those values are left that have not been asked for. -/
theorem take_positional (method : String) (values : List Variant) (earlier : List FieldType)
    (t : FieldType) :
    let r := (ofValues method values).afterTakes earlier
    (∀ v, values[earlier.length]? = some v →
      r.rest = v :: (r.take t).2.rest ∧
      (∀ x, (r.take t).1 = .ok x ↔ v.convert t = .ok x) ∧
      ∀ e, (r.take t).1 = .error e ↔ (∃ e', v.convert t = .error e') ∧
        e = .typeMismatch s!"{method}#{earlier.length}" t v.kind) ∧
    (values.length ≤ earlier.length →
      (r.take t).1 = .error (.missingReturn method values.length values.length)) ∧
    (r.take t).2.remaining = values.length - (earlier.length + 1) := by
  simp only [afterTakes_ofValues]
  refine ⟨fun v hv => ?_, fun hend => ?_, ?_⟩
  · obtain ⟨hk, rfl⟩ := List.getElem?_eq_some_iff.1 hv
    rw [List.drop_eq_getElem_cons hk, Nat.min_eq_left (by omega), take_cons]
    exact ⟨rfl, fun x => Variant.convertFor_eq_ok_iff, fun e => Variant.convertFor_eq_error_iff⟩
  · rw [List.drop_eq_nil_of_le hend, Nat.min_eq_right hend, take_nil]
  · rw [snd_take_drop, remaining, List.length_drop]

/-- A refused value, a value of another width, and one too many. -/
theorem take_positional_acquire :
    let r := ofValues "Acquire" [.str "fd", .int32 672]
    (r.take .uint16).1 = .error (.typeMismatch "Acquire#0" .uint16 .str) ∧
      ((r.afterTakes [.uint16]).take .uint16).1 = .ok (672 : UInt16) ∧
      ((r.afterTakes [.uint16, .uint16]).take .bool).1 = .error (.missingReturn "Acquire" 2 2) := by
  have hread : (Variant.int32 672).convert .uint16 = .ok (672 : UInt16) := by rfl
  have hfirst := (take_positional "Acquire" [.str "fd", .int32 672] [] .uint16).1 _ rfl
  have hsecond := (take_positional "Acquire" [.str "fd", .int32 672] [.uint16] .uint16).1 _ rfl
  have hthird := (take_positional "Acquire" [.str "fd", .int32 672] [.uint16, .uint16] .bool).2.1
  exact ⟨(hfirst.2.2 _).2 ⟨⟨_, rfl⟩, rfl⟩, (hsecond.2.1 _).2 hread, hthird (by decide)⟩

end Returns

end BusDoc
