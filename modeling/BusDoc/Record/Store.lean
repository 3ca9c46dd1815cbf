import BusDoc.Record.Marshal

/-!
# Shared records

Handles on records that several parties share. A clone of a handle stands for the same record, so
a write through one is seen through all; a fresh handle stands for a record of its own.

* `read?_write`: what was written through a handle is read through it.
* `write_self`: writing what is there changes nothing.
* `write_write`: of two writes through a handle the second one counts.
-/

namespace BusDoc

/-- The records in use, and for every handle the place of the record it stands for. -/
structure Stores (R : Type) where
  records : List R
  handles : List Nat
  deriving Repr

namespace Stores

variable {R : Type}

/-- One record with one handle. -/
def one (record : R) : Stores R := ⟨[record], [0]⟩

/-- The record that a handle stands for. -/
def read? (s : Stores R) (handle : Nat) : Option R :=
  s.handles[handle]?.bind fun place => s.records[place]?

/-- The record of a handle replaced. -/
def write (s : Stores R) (handle : Nat) (record : R) : Stores R :=
  match s.handles[handle]? with
  | some place => { s with records := s.records.set place record }
  | none => s

/-- A new handle on the record of a handle. -/
def clone (s : Stores R) (handle : Nat) : Stores R :=
  match s.handles[handle]? with
  | some place => { s with handles := s.handles ++ [place] }
  | none => s

/-- A new handle on a new record. -/
def add (s : Stores R) (record : R) : Stores R :=
  ⟨s.records ++ [record], s.handles ++ [s.records.length]⟩

/-- The record of a handle after the entries of a map, or the failure with nothing changed. -/
def update (s : Stores R) (type : RecordType R) (handle : Nat) (m : PropertyMap) :
    Except MarshalError (Stores R) :=
  match s.read? handle with
  | some record => (type.update record m).map (s.write handle)
  | none => .ok s

/-- The record of a handle replaced by the one built from a map, or the failure with nothing
changed. -/
def replace (s : Stores R) (type : RecordType R) (handle : Nat) (m : PropertyMap) :
    Except MarshalError (Stores R) :=
  (type.ofMap m).map (s.write handle)

/-! ## In place -/

/-- The record of a handle updated in place. -/
def updateInPlace (stores : Stores R) (T : RecordType R) (handle : Nat) (m : PropertyMap) :
    Except MarshalError Unit × Stores R :=
  match stores.read? handle with
  | some record =>
    let (result, left) := T.updateInPlace record m
    (result, stores.write handle left)
  | none => (.ok (), stores)

/-- A record built from a map in place of the one of a handle. -/
def replaceInPlace (stores : Stores R) (T : RecordType R) (handle : Nat) (m : PropertyMap) :
    Except MarshalError Unit × Stores R :=
  match T.assignAll T.initial m.entries with
  | (.ok (), built) => (.ok (), stores.write handle built)
  | (.error e, _) => (.error e, stores)

/-! ## Reading what was written -/

theorem read?_write {s : Stores R} {handle : Nat} (h : (s.read? handle).isSome) (record : R) :
    (s.write handle record).read? handle = some record := by
  obtain ⟨old, hold⟩ := Option.isSome_iff_exists.1 h
  obtain ⟨place, hplace, hrecord⟩ := Option.bind_eq_some_iff.1 hold
  obtain ⟨hlt, -⟩ := List.getElem?_eq_some_iff.1 hrecord
  simp [write, read?, hplace, hlt]

theorem write_self {s : Stores R} {handle : Nat} {record : R}
    (h : s.read? handle = some record) : s.write handle record = s := by
  obtain ⟨place, hplace, hrecord⟩ := Option.bind_eq_some_iff.1 h
  obtain ⟨hlt, rfl⟩ := List.getElem?_eq_some_iff.1 hrecord
  simp [write, hplace]

theorem write_write (s : Stores R) (handle : Nat) (first second : R) :
    (s.write handle first).write handle second = s.write handle second := by
  cases hplace : s.handles[handle]? with
  | none => simp [write, hplace]
  | some place => simp [write, hplace]

end Stores

end BusDoc
