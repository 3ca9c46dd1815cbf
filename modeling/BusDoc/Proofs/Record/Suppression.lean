import BusDoc.Proofs.Record.Resolution
import BusDoc.Record.Schema

/-!
# Fields that are left out

A tag can leave a field out of the maps of a record: always, or while another field is true. A tag
that names several such fields is read without complaint, but only the last of them counts.

* `get?_eq_none_iff`: when a field has no entry in the map of a record.
* `suppressed_absent_iff`: which of the fields that their tags suppress are left out. All are whose
  tags name one field at most.
* `overwritten_flag_leaks`: a field that is suppressed and is there.
-/

namespace BusDoc

open Directives

variable {R : Type} {T : RecordType R}

/-- The tag of the field says that it is left out of the map of the record: it is ignored, or
ignored while a field is true that is true. -/
def RecordType.Suppresses (T : RecordType R) (f : Field R) (r : R) : Prop :=
  ignoring ∈ split f.tag ∨ ∃ name ∈ flags f.tag, T.IsSet r name

/-- The field is left out for its zero. -/
def Field.Omits (f : Field R) (r : R) : Prop :=
  (∃ w ∈ split f.tag, IsOmitting w) ∧ (f.get r).isZero = true

/-- The last field that the tag of a field names is true in the record. -/
def RecordType.LastIsSet (T : RecordType R) (f : Field R) (r : R) : Prop :=
  ∃ name, (flags f.tag).getLast? = some name ∧ T.IsSet r name

/-- The entry under the name of a field that resolved is its own. -/
theorem get?_eq_none_iff {f : ResolvedField R} (hf : f ∈ T.resolve) (hok : f.fault? = none)
    (r : R) :
    (T.toMap r).get? f.name = none ↔
      ignoring ∈ split f.tag ∨ T.LastIsSet f.toField r ∨ f.Omits r := by
  cases hd : f.directives with
  | error e =>
    rw [ResolvedField.fault?, hd] at hok
    cases hok
  | ok d =>
    have hfirst : T.resolved? f.name = some f := (RecordType.resolves_of_mem hf hd).first
    rw [RecordType.get?_toMap, hfirst, Option.bind_some]
    exact RecordType.value?_eq_none_iff hf hd r

/-- A tag that names one field at most names it last. -/
theorem RecordType.Suppresses.lastIsSet {f : Field R} {r : R} (h : T.Suppresses f r)
    (hone : (flags f.tag).length ≤ 1) : ignoring ∈ split f.tag ∨ T.LastIsSet f r := by
  refine h.imp id ?_
  rintro ⟨name, hname, hset⟩
  have hflags : flags f.tag = [name] := by
    cases hfs : flags f.tag with
    | nil =>
      rw [hfs] at hname
      cases hname
    | cons first rest =>
      rw [hfs, List.length_cons] at hone
      have hrest : rest = [] := List.length_eq_zero_iff.1 (by omega)
      rw [hfs, hrest, List.mem_singleton] at hname
      rw [hname, hrest]
  exact ⟨name, by rw [hflags]; rfl, hset⟩

/-- **Suppressed fields.** The strict map of a record has the entries of its map. A field that
resolved and that its tag suppresses has no entry exactly if it is ignored always, or the last field
that its tag names is true, or it is omitted for its zero. So it has none if the tag names one field
at most; of several fields all but the last are forgotten. -/
theorem suppressed_absent_iff {f : ResolvedField R} (hf : f ∈ T.resolve) (hok : f.fault? = none)
    {r : R} (hs : T.Suppresses f.toField r) :
    ((T.toMap r).get? f.name = none ↔
      ignoring ∈ split f.tag ∨ T.LastIsSet f.toField r ∨ f.Omits r) ∧
    ((flags f.tag).length ≤ 1 → (T.toMap r).get? f.name = none) ∧
    ∀ m, T.toMap? r = .ok m → m = T.toMap r := by
  refine ⟨get?_eq_none_iff hf hok r, fun hone => ?_, fun m hm => ?_⟩
  · rw [get?_eq_none_iff hf hok r, ← or_assoc]
    exact .inl (hs.lastIsSet hone)
  · rw [RecordType.toMap?_eq] at hm
    split at hm
    next => exact (Except.ok.inj hm).symm
    next => cases hm

/-- Two numbers that are to be hidden while one of two fields is true, and one of them always. -/
def counterSchema : Schema := [
  ⟨"Hide", .bool, ""⟩, ⟨"Hush", .bool, ""⟩, ⟨"Count", .int32, "ignore=Hide, ignore=Hush"⟩,
  ⟨"Step", .byte, "ignore=Hide, ignore, writable"⟩]

/-- A record with the first of the two fields true. -/
def hiddenCounter : Record counterSchema :=
  ((Record.zero counterSchema).put ⟨0, by decide⟩ true).put ⟨2, by decide⟩ (7 : Int32)

/-- A field of the counter, resolved. -/
def counterField (place : Fin 4) : ResolvedField (Record counterSchema) :=
  counterSchema.recordType.resolve.get place

theorem suppressed_absent_counter :
    (counterField 3).fault? = none ∧
      counterSchema.recordType.Suppresses (counterField 3).toField hiddenCounter ∧
      (counterSchema.recordType.toMap hiddenCounter).get? "Step" = none := by
  have hresolves : (counterField 3).fault? = none := rfl
  have hsuppressed :
      counterSchema.recordType.Suppresses (counterField 3).toField hiddenCounter :=
    .inl (by decide)
  have hmem : counterField 3 ∈ counterSchema.recordType.resolve := List.get_mem _ _
  exact ⟨hresolves, hsuppressed,
    (suppressed_absent_iff hmem hresolves hsuppressed).1.2 (.inl (by decide))⟩

/-- A field that resolved is suppressed by the first of two directives, and has an entry. -/
theorem overwritten_flag_leaks :
    counterField 2 ∈ counterSchema.recordType.resolve ∧ (counterField 2).fault? = none ∧
      counterSchema.recordType.Suppresses (counterField 2).toField hiddenCounter ∧
      (counterSchema.recordType.toMap hiddenCounter).get? "Count" = some (.int32 7) := by
  have hset : counterSchema.recordType.IsSet hiddenCounter "Hide" := ⟨_, rfl, rfl⟩
  exact ⟨List.get_mem _ _, rfl, .inr ⟨"Hide", by decide, hset⟩, rfl⟩

end BusDoc
