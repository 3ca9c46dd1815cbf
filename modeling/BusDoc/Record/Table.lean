import BusDoc.Record.Directive

/-!
# Field tables

A record type declares its fields once: a name on the bus, a directive tag, a reader and a writer.
Resolving the declaration checks every tag and links each `ignore=` directive to the field it
names. A field whose tag is refused keeps the fault in place of its directives.

* `length_resolve`: resolving keeps the number of fields.
-/

namespace BusDoc

/-- One declared field of records of type `R`. -/
structure Field (R : Type) where
  /-- The name of the property on the bus. -/
  name : String
  /-- The directive tag as written. -/
  tag : String
  /-- The value of the field. -/
  get : R → Variant
  /-- The record with the field set, or the reason why it cannot be. -/
  set : R → Variant → Except MarshalError R

/-- A declared record type: its fields in order and the record to start from. -/
structure RecordType (R : Type) where
  fields : List (Field R)
  initial : R

/-- A field with its directives resolved. -/
structure ResolvedField (R : Type) extends Field R where
  directives : Except MarshalError Directives
  /-- The field that `ignore=` names. -/
  sibling : Option (Field R)

namespace ResolvedField

variable {R : Type}

/-- The field may be set from outside. -/
def writable (f : ResolvedField R) : Bool :=
  match f.directives with
  | .ok d => d.writable
  | .error _ => false

/-- The field is left out always. -/
def skipped (f : ResolvedField R) : Bool :=
  match f.directives with
  | .ok d => d.skip
  | .error _ => false

/-- Why the field did not resolve. -/
def fault? (f : ResolvedField R) : Option MarshalError :=
  match f.directives with
  | .ok _ => none
  | .error e => some e

end ResolvedField

namespace RecordType

variable {R : Type}

/-- The first declared field with the given name. -/
def field? (r : RecordType R) (name : String) : Option (Field R) :=
  r.fields.find? fun f => f.name == name

/-- The field that `flag` names, if `f` may be left out on its value: it is another field, and
it holds a boolean in the initial record. -/
def sibling (r : RecordType R) (f : Field R) (flag : String) : Except DirectiveFault (Field R) :=
  if flag = f.name then .error .ownValue
  else match r.field? flag with
    | none => .error (.noField flag)
    | some s =>
      if (s.get r.initial).kind = .bool then .ok s
      else .error (.notBool flag (s.get r.initial).kind)

/-- The directives of a field and the field they name, when the names before it are `seen`. -/
def resolveField (r : RecordType R) (seen : List String) (f : Field R) :
    Except DirectiveFault (Directives × Option (Field R)) :=
  if f.name ∈ seen then .error .duplicateName
  else do
    let d ← Directives.parse f.tag
    match d.skipIf with
    | none => return (d, none)
    | some flag => return (d, some (← r.sibling f flag))

/-- The fields resolved one after the other, each knowing the names before it. -/
def resolveFrom (r : RecordType R) : (seen : List String) → List (Field R) → List (ResolvedField R)
  | _, [] => []
  | seen, f :: fs =>
    let resolved : ResolvedField R :=
      match r.resolveField seen f with
      | .ok (d, s) => { f with directives := .ok d, sibling := s }
      | .error fault => { f with directives := .error (.directive f.name fault), sibling := none }
    resolved :: r.resolveFrom (f.name :: seen) fs

/-- The resolved fields, in the order of their declaration. -/
def resolve (r : RecordType R) : List (ResolvedField R) := r.resolveFrom [] r.fields

/-- The first resolved field with the given name. -/
def resolved? (r : RecordType R) (name : String) : Option (ResolvedField R) :=
  r.resolve.find? fun f => f.name == name

/-- The faults of the fields that did not resolve, in order. -/
def faults (r : RecordType R) : List MarshalError := r.resolve.filterMap ResolvedField.fault?

/-- The names of the fields that may be set from outside. -/
def writableNames (r : RecordType R) : List String :=
  (r.resolve.filter ResolvedField.writable).map fun f => f.name

theorem length_resolveFrom (r : RecordType R) (seen : List String) (fs : List (Field R)) :
    (r.resolveFrom seen fs).length = fs.length := by
  induction fs generalizing seen with
  | nil => rfl
  | cons f fs ih => simp [resolveFrom, ih]

theorem length_resolve (r : RecordType R) : r.resolve.length = r.fields.length :=
  length_resolveFrom r [] r.fields

end RecordType

end BusDoc
