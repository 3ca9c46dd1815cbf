import BusDoc.Record.Marshal

/-!
# Typed records

A schema lists the fields of a record type with their types. A record of a schema holds one value
per field, of the field's type; it starts with every field zero. `Schema.recordType` is the record
type that the schema declares: a field is read by wrapping its value and set by converting.

* `Record.set_eq_ok_iff`: a field that was set holds the converted value, and the others hold what
  they held.
-/

namespace BusDoc

/-- The declaration of one typed field. -/
structure FieldSpec where
  name : String
  type : FieldType
  tag : String := ""
  deriving DecidableEq, Repr

/-- The declared fields of a record type. -/
abbrev Schema := List FieldSpec

/-- The declaration of the field at a place. -/
abbrev Schema.spec (s : Schema) (i : Fin s.length) : FieldSpec := s[i]

/-- One value for every field of the schema. -/
structure Record (s : Schema) where
  value : (i : Fin s.length) → s[i].type.Carrier

namespace Record

variable {s : Schema}

/-- The record with every field zero. -/
def zero (s : Schema) : Record s := ⟨fun i => s[i].type.zero⟩

/-- A field as a value on the bus. -/
def get (r : Record s) (i : Fin s.length) : Variant := s[i].type.toVariant (r.value i)

/-- The record with the value of one field replaced. -/
def put (r : Record s) (i : Fin s.length) (x : s[i].type.Carrier) : Record s :=
  ⟨fun j => if h : i = j then h ▸ x else r.value j⟩

/-- The record with one field set to a converted value. -/
def set (r : Record s) (i : Fin s.length) (v : Variant) : Except MarshalError (Record s) :=
  (v.convert s[i].type).map (r.put i)

/-- All fields with their names, as values on the bus. -/
def values (r : Record s) : List (String × Variant) :=
  (List.finRange s.length).map fun i => (s[i].name, r.get i)

theorem value_put (r : Record s) (i : Fin s.length) (x : s[i].type.Carrier) :
    (r.put i x).value i = x := by
  simp [put]

theorem value_put_of_ne (r : Record s) {i j : Fin s.length} (x : s[i].type.Carrier) (h : i ≠ j) :
    (r.put i x).value j = r.value j := by
  simp [put, h]

theorem ext {r r' : Record s} (h : ∀ i, r.value i = r'.value i) : r = r' := by
  cases r
  cases r'
  congr
  exact funext h

theorem set_eq_ok_iff {r r' : Record s} {i : Fin s.length} {v : Variant} :
    r.set i v = .ok r' ↔
      v.convert (s.spec i).type = .ok (r'.value i) ∧ ∀ j, j ≠ i → r'.value j = r.value j := by
  unfold set
  cases v.convert (s.spec i).type with
  | error e => simp [Except.map]
  | ok x =>
    simp only [Except.map, Except.ok.injEq]
    constructor
    · rintro rfl
      exact ⟨(value_put r i x).symm, fun j hj => value_put_of_ne r x (Ne.symm hj)⟩
    · rintro ⟨rfl, hothers⟩
      refine ext fun j => ?_
      by_cases hj : j = i
      · subst hj
        exact value_put r j _
      · rw [value_put_of_ne r _ (Ne.symm hj), hothers j hj]

end Record

namespace Schema

/-- The field of records of the schema at a place. -/
def field (s : Schema) (i : Fin s.length) : Field (Record s) where
  name := s[i].name
  tag := s[i].tag
  get r := r.get i
  set r v := r.set i v

/-- The record type that the schema declares. -/
def recordType (s : Schema) : RecordType (Record s) where
  fields := (List.finRange s.length).map s.field
  initial := Record.zero s

end Schema

end BusDoc
