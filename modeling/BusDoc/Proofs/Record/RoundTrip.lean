import BusDoc.Proofs.Record.Resolution
import BusDoc.Proofs.Record.Update
import BusDoc.Proofs.Value.Conversion
import Mathlib.Data.List.Nodup

/-!
# Records and their maps

A record that was written out as a map is read back from it, if its type leaves no field out but
those that hold the value a fresh record has there. The record types of generated modules are so.

* `eq_zero_of_isZero`: the zero that a field is left out for is the one that it starts with, except
  in a field of any value: there are zeros of several kinds.
* `resolve_eq_map`: fields with names of their own that name no other field resolve one by one.
* `Restorable.ofMap_toMap`: the round trip.
-/

namespace BusDoc

open Result

/-! ## Tags -/

namespace Directives

/-- Such directives are no reason to leave a field out, except while it is zero. -/
theorem exists_foldlM_step {ws : List (List Char)} (h : ∀ w ∈ ws, IsOmitting w ∨ w = marking)
    (d : Directives) :
    ∃ d', ws.foldlM step d = .ok d' ∧ d'.skip = d.skip ∧ d'.skipIf = d.skipIf ∧
      (d'.omitEmpty = true → d.omitEmpty = true ∨ ∃ w ∈ ws, IsOmitting w) := by
  induction ws generalizing d with
  | nil => exact ⟨d, rfl, rfl, rfl, .inl⟩
  | cons w ws ih =>
    rw [List.forall_mem_cons] at h
    rcases h.1 with hw | rfl
    · obtain ⟨d', hd', hskip, hflag, -⟩ := ih h.2 { d with omitEmpty := true }
      exact ⟨d', foldlM_cons_eq_ok.2 ⟨_, step_of_isOmitting hw d, hd'⟩, hskip, hflag,
        fun _ => .inr ⟨w, List.mem_cons_self, hw⟩⟩
    · obtain ⟨d', hd', hskip, hflag, homit⟩ := ih h.2 { d with writable := true }
      refine ⟨d', foldlM_cons_eq_ok.2 ⟨_, step_marking d, hd'⟩, hskip, hflag, fun ho => ?_⟩
      exact (homit ho).imp id fun ⟨w, hw, hom⟩ => ⟨w, List.mem_cons_of_mem _ hw, hom⟩

end Directives

/-! ## Zeros -/

namespace FieldType

theorem eq_zero_of_isZero {t : FieldType} (ht : t ≠ .variant) {x : t.Carrier}
    (h : (t.toVariant x).isZero = true) : x = t.zero := by
  cases t with
  | variant => exact absurd rfl ht
  | bool => exact (Bool.not_eq_true' x).mp h
  | byte | int16 | uint16 | int32 | uint32 | string => exact (eq_of_beq h :)
  | path => exact congrArg ObjectPath.mk (eq_of_beq h)
  | bytes | array | dict => exact List.isEmpty_iff.1 h
  | strings | paths => exact List.map_eq_nil_iff.1 (List.isEmpty_iff.1 h)

end FieldType

/-! ## Fields that name no other -/

section Alone

variable {R : Type}

/-- The field as it resolves when no earlier one has its name and it names none. -/
def Field.alone (f : Field R) : ResolvedField R :=
  { f with
    directives := (Directives.parse f.tag).mapError (.directive f.name)
    sibling := none }

theorem RecordType.resolveFrom_eq_map (T : RecordType R) {seen : List String}
    {fs : List (Field R)} (hnames : (fs.map Field.name).Nodup) (hnew : ∀ f ∈ fs, f.name ∉ seen)
    (hflags : ∀ f ∈ fs, ∀ d, Directives.parse f.tag = .ok d → d.skipIf = none) :
    T.resolveFrom seen fs = fs.map Field.alone := by
  induction fs generalizing seen with
  | nil => rfl
  | cons f fs ih =>
    rw [List.map_cons, List.nodup_cons] at hnames
    rw [List.forall_mem_cons] at hnew hflags
    have hrest : ∀ f' ∈ fs, f'.name ∉ f.name :: seen := fun f' hf' hmem =>
      (List.mem_cons.1 hmem).elim (fun e => hnames.1 (e ▸ List.mem_map_of_mem hf'))
        (hnew.2 f' hf')
    rw [resolveFrom, ih hnames.2 hrest hflags.2, List.map_cons, resolveField, if_neg hnew.1]
    congr 1
    unfold Field.alone
    cases hd : Directives.parse f.tag with
    | error e => rfl
    | ok d =>
      simp only [bind, Except.bind, hflags.1 d hd]
      rfl

theorem RecordType.resolve_eq_map (T : RecordType R) (hnames : (T.fields.map Field.name).Nodup)
    (hflags : ∀ f ∈ T.fields, ∀ d, Directives.parse f.tag = .ok d → d.skipIf = none) :
    T.resolve = T.fields.map Field.alone :=
  T.resolveFrom_eq_map hnames (fun _ _ => List.not_mem_nil) hflags

theorem Field.directives_alone {f : Field R} {d : Directives}
    (hd : Directives.parse f.tag = .ok d) : f.alone.directives = .ok d := mapError_eq_ok.2 hd

theorem Field.value?_alone {f : Field R} {d : Directives} (hd : Directives.parse f.tag = .ok d)
    (hskip : d.skip = false) (r : R) :
    f.alone.value? r = if d.omitEmpty && (f.get r).isZero then none else some (f.get r) := by
  have hsibling : f.alone.sibling = none := rfl
  rw [ResolvedField.value?_of_directives (Field.directives_alone hd), hskip, hsibling]
  rfl

end Alone

/-! ## Record types that lose nothing -/

theorem Schema.recordTypeFrom_zero (s : Schema) : s.recordTypeFrom (.zero s) = s.recordType := rfl

theorem Schema.names_eq (s : Schema) :
    (List.finRange s.length).map (fun i => (s.spec i).name) = s.map FieldSpec.name := by
  conv_rhs => rw [← s.map_get_finRange, List.map_map]
  rfl

/-- A field may be left out while its value is zero, but a field of any value may not. Its tag has
no other directives, except that it may mark the field as settable. -/
structure FieldSpec.Restorable (f : FieldSpec) : Prop where
  directives : ∀ w ∈ Directives.split f.tag, Directives.IsOmitting w ∨ w = Directives.marking
  present : f.type = .variant → ∀ w ∈ Directives.split f.tag, ¬ Directives.IsOmitting w

/-- Fields with different names, each of them left out for its zero at most. -/
structure Schema.Restorable (s : Schema) : Prop where
  names : (s.map FieldSpec.name).Nodup
  fields : ∀ f ∈ s, f.Restorable

instance (f : FieldSpec) : Decidable f.Restorable :=
  decidable_of_iff
    ((∀ w ∈ Directives.split f.tag, Directives.IsOmitting w ∨ w = Directives.marking) ∧
      (f.type = .variant → ∀ w ∈ Directives.split f.tag, ¬ Directives.IsOmitting w))
    ⟨fun h => ⟨h.1, h.2⟩, fun h => ⟨h.directives, h.present⟩⟩

instance (s : Schema) : Decidable s.Restorable :=
  decidable_of_iff ((s.map FieldSpec.name).Nodup ∧ ∀ f ∈ s, f.Restorable)
    ⟨fun h => ⟨h.1, h.2⟩, fun h => ⟨h.names, h.fields⟩⟩

theorem FieldSpec.Restorable.parse {f : FieldSpec} (h : f.Restorable) :
    ∃ d, Directives.parse f.tag = .ok d ∧ d.skip = false ∧ d.skipIf = none ∧
      (d.omitEmpty = true → f.type ≠ .variant) := by
  obtain ⟨d, hd, hskip, hflag, homit⟩ := Directives.exists_foldlM_step h.directives {}
  refine ⟨d, hd, hskip, hflag, fun ho ht => ?_⟩
  rcases homit ho with hfalse | ⟨w, hw, hom⟩
  · cases hfalse
  · exact h.present ht w hw hom

namespace Schema.Restorable

variable {s : Schema}

theorem parse_tag (h : s.Restorable) (i : Fin s.length) :
    ∃ d, Directives.parse (s.field i).tag = .ok d ∧ d.skip = false ∧ d.skipIf = none ∧
      (d.omitEmpty = true → (s.spec i).type ≠ .variant) :=
  (h.fields (s.spec i) (List.getElem_mem i.2)).parse

theorem resolve_eq (h : s.Restorable) :
    s.recordType.resolve = s.recordType.fields.map Field.alone := by
  refine s.recordType.resolve_eq_map ?_ fun f hf d hd => ?_
  · show (((List.finRange s.length).map s.field).map Field.name).Nodup
    rw [List.map_map]
    exact s.names_eq ▸ h.names
  · obtain ⟨i, -, rfl⟩ := List.mem_map.1 hf
    obtain ⟨d', hd', -, hflag, -⟩ := h.parse_tag i
    rw [← Except.ok.inj (hd'.symm.trans hd)]
    exact hflag

/-- No field of the record type has a fault. -/
theorem faults_eq_nil (h : s.Restorable) : s.recordType.faults = [] := by
  rw [RecordType.faults, h.resolve_eq, List.filterMap_map, List.filterMap_eq_nil_iff]
  intro f hf
  obtain ⟨i, -, rfl⟩ := List.mem_map.1 hf
  obtain ⟨d, hd, -⟩ := h.parse_tag i
  rw [Function.comp_apply, ResolvedField.fault?, Field.directives_alone hd]

theorem place?_name (h : s.Restorable) (i : Fin s.length) : s.place? (s.spec i).name = some i := by
  unfold place?
  cases hfind : (List.finRange s.length).find? fun j => (s.spec j).name == (s.spec i).name with
  | none => simpa using List.find?_eq_none.1 hfind i (List.mem_finRange i)
  | some j =>
    have hname : (s.spec j).name = (s.spec i).name := by simpa using List.find?_some hfind
    have hnames := s.names_eq ▸ h.names
    rw [List.inj_on_of_nodup_map hnames (List.mem_finRange j) (List.mem_finRange i) hname]

theorem resolved?_name (h : s.Restorable) (i : Fin s.length) :
    s.recordType.resolved? (s.spec i).name = some (s.field i).alone := by
  have hfield : s.recordType.field? (s.spec i).name = some (s.field i) := by
    rw [← s.recordTypeFrom_zero, s.field?_recordTypeFrom, h.place?_name, Option.map_some]
  rw [RecordType.resolved?, h.resolve_eq, List.find?_map]
  exact congrArg (Option.map Field.alone) hfield

theorem target?_name (h : s.Restorable) (i : Fin s.length) :
    s.target? (.zero s) (s.spec i).name = some i := by
  obtain ⟨d, hd, hskip, -⟩ := h.parse_tag i
  have hset : (s.field i).alone.skipped = false := by
    rw [ResolvedField.skipped, Field.directives_alone hd]
    exact hskip
  rw [Schema.target?, s.recordTypeFrom_zero, h.resolved?_name, Option.any_some, hset,
    h.place?_name]
  rfl

/-- The record written out as a map is read back from the map. -/
theorem ofMap_toMap (h : s.Restorable) (r : Record s) :
    s.recordType.ofMap (s.recordType.toMap r) = .ok r := by
  rw [← s.recordTypeFrom_zero]
  refine s.update_eq_ok_iff.2 fun i => ?_
  obtain ⟨d, hd, hskip, -, homit⟩ := h.parse_tag i
  have hgiven : s.given? (.zero s) (s.recordType.toMap r).entries i =
      if d.omitEmpty && (r.get i).isZero then none else some (r.get i) := by
    have hget := s.recordType.get?_toMap r (s.spec i).name
    rw [h.resolved?_name, Option.bind_some, Field.value?_alone hd hskip] at hget
    rw [Schema.given?, if_pos (h.target?_name i)]
    exact hget
  rw [s.recordTypeFrom_zero, hgiven]
  split
  next hzero =>
    rw [Bool.and_eq_true] at hzero
    rw [Record.taken, FieldType.eq_zero_of_isZero (homit hzero.1) hzero.2]
    rfl
  next => exact Variant.convert_eq_ok.2 (Variant.read?_toVariant _ _)

end Schema.Restorable

end BusDoc
