import BusDoc.Record.Table

/-!
# Records as property maps

`toMap` writes a record out under the names of its fields, in the order of declaration; `toMap?`
does the same but refuses a record type with a fault. `update` assigns the entries of a map to the
fields they name, in the order of the map, and stops at the first value that does not convert;
`ofMap` does so from the initial record. `updateInPlace` is the update of a record that is there and
is changed, through a copy that takes the entries.
-/

namespace BusDoc

namespace ResolvedField

variable {R : Type}

/-- The value that the field contributes to the map of `record`, if any. -/
def emit (f : ResolvedField R) (record : R) : Except MarshalError (Option Variant) := do
  let d ← f.directives
  if d.skip then return none
  if (f.sibling.bind fun s => (s.get record).asBool?) = some true then return none
  let value := f.get record
  if d.omitEmpty && value.isZero then return none
  return some value

end ResolvedField

namespace RecordType

variable {R : Type}

/-- The record as a map. A field whose directives are refused is left out. -/
def toMap (r : RecordType R) (record : R) : PropertyMap :=
  r.resolve.foldl
    (fun m f => match f.emit record with
      | .ok (some value) => m.insert f.name value
      | _ => m)
    OrderedMap.empty

/-- The record as a map, or the first fault of the record type. -/
def toMap? (r : RecordType R) (record : R) : Except MarshalError PropertyMap :=
  r.resolve.foldlM
    (fun m f => do
      match ← f.emit record with
      | some value => return m.insert f.name value
      | none => return m)
    OrderedMap.empty

/-- One entry assigned to the field it names. An entry that names no field, or one that is always
left out, is passed over. -/
def assign (r : RecordType R) (record : R) (entry : String × Variant) : Except MarshalError R :=
  match r.resolved? entry.1 with
  | none => .ok record
  | some f =>
    if f.skipped then .ok record
    else (f.set record entry.2).mapError (MarshalError.forField f.name)

/-- The record after all entries of the map, or the first failure. The record that was given is
never half changed: on failure there is no new one. -/
def update (r : RecordType R) (record : R) (m : PropertyMap) : Except MarshalError R :=
  m.entries.foldlM r.assign record

/-- The record built from a map: fields without an entry keep their initial value. -/
def ofMap (r : RecordType R) (m : PropertyMap) : Except MarshalError R := r.update r.initial m

/-! ## In place -/

/-- The entries assigned to a record in place, up to the first failure: beside the failure stands
the record that took the entries before it. -/
def assignAll (T : RecordType R) : R → List (String × Variant) → Except MarshalError Unit × R
  | record, [] => (.ok (), record)
  | record, e :: es =>
    match T.assign record e with
    | .ok next => T.assignAll next es
    | .error err => (.error err, record)

/-- A record updated in place: the entries are assigned to a copy, which takes the place of the
record if all of them could be. -/
def updateInPlace (T : RecordType R) (record : R) (m : PropertyMap) :
    Except MarshalError Unit × R :=
  match T.assignAll record m.entries with
  | (.ok (), staged) => (.ok (), staged)
  | (.error e, _) => (.error e, record)

end RecordType

end BusDoc
