import BusDoc.Proofs.Binding.Claims
import BusDoc.Proofs.Record.RoundTrip

/-!
# Property records

Records of typed fields are not changed by being written out as a map and read back, if their
type leaves no field out but for its zero. The records of generated modules are of such types:
their fields are named by properties with different identifiers, and are tagged as settable or not
at all.

* `nodup_properties`: no two fields of a record are made of one property.
* `RecordDecl.Declares.restorable`: what the record of a module declares loses nothing.
* `restore_record`: the round trip, and that it is one for every generated record.
-/

namespace BusDoc.Binding

open Result

/-! ## Fields of a module -/

/-- The properties of the fields are different, for they have different identifiers. -/
theorem nodup_properties {taken : List (List Char)} {ps : List Property} {fields : List FieldDecl}
    (h : recordFields taken ps = .ok fields) : (fields.map FieldDecl.property).Nodup := by
  obtain ⟨hclaims, rfl⟩ := recordFields_eq_ok_iff.1 h
  have hnodup := hclaims.nodup
  have hident : ps.map propertyIdent =
      ((ps.map fieldOf).map FieldDecl.property).map fun name => fieldIdent name.toList := by
    simp only [List.map_map]
    rfl
  rw [hident] at hnodup
  exact hnodup.of_map

/-! ## Declared record types -/

/-- The field that the lines of a generated field declare: it has the name of the property, a type
of that spelling, and the tag that stands behind the name. -/
structure FieldDecl.Declares (f : FieldDecl) (spec : FieldSpec) : Prop where
  name : spec.name = f.property
  type : spec.type.spelling = f.type
  tag : spec.tag = if f.writable then "writable" else ""

/-- The record type that a generated record declares, field by field. -/
def RecordDecl.Declares (d : RecordDecl) (s : Schema) : Prop :=
  List.Forall₂ FieldDecl.Declares d.fields s

/-- The field of a property as a typed field. -/
def specOf (p : Property) : FieldSpec where
  name := p.name
  type := p.docType.fieldType
  tag := if p.flags.readWrite then "writable" else ""

theorem declares_specOf (p : Property) : (fieldOf p).Declares (specOf p) := ⟨rfl, rfl, rfl⟩

theorem FieldDecl.Declares.restorable {f : FieldDecl} {spec : FieldSpec} (h : f.Declares spec) :
    spec.Restorable := by
  have hsplit : ∀ w ∈ Directives.split spec.tag, w = Directives.marking := by
    rw [h.tag]
    cases f.writable <;> decide
  refine ⟨fun w hw => .inr (hsplit w hw), fun _ w hw => ?_⟩
  rw [hsplit w hw]
  decide

theorem exists_declares {o : RenderOptions} {i : Interface} {m : ClientModule}
    (h : clientModule o i = .ok m) : ∃ s, m.record.Declares s := by
  obtain ⟨-, _, fields, _, -, hfields, -, rfl⟩ := clientModule_eq_ok.1 h
  obtain ⟨-, rfl⟩ := recordFields_eq_ok_iff.1 hfields
  refine ⟨i.properties.values.map specOf, ?_⟩
  exact List.forall₂_map_left_iff.2 (List.forall₂_map_right_iff.2
    (List.forall₂_same.2 fun p _ => declares_specOf p))

theorem RecordDecl.Declares.names_eq {d : RecordDecl} {s : Schema} (h : d.Declares s) :
    s.map FieldSpec.name = d.fields.map FieldDecl.property := by
  have hpairs : List.Forall₂ (· = ·) (s.map FieldSpec.name) (d.fields.map FieldDecl.property) :=
    List.forall₂_map_left_iff.2 (List.forall₂_map_right_iff.2 (h.flip.imp fun _ _ hf => hf.name))
  rwa [List.forall₂_eq_eq_eq] at hpairs

theorem RecordDecl.Declares.restorable {o : RenderOptions} {i : Interface} {m : ClientModule}
    (h : clientModule o i = .ok m) {s : Schema} (hs : m.record.Declares s) : s.Restorable := by
  refine ⟨?_, fun spec hspec => ?_⟩
  · rw [hs.names_eq]
    obtain ⟨-, _, fields, _, -, hfields, -, rfl⟩ := clientModule_eq_ok.1 h
    exact nodup_properties hfields
  · obtain ⟨f, -, hf⟩ := exists_of_forall₂ hs.flip hspec
    exact FieldDecl.Declares.restorable hf

/-- **Records survive their maps.** A record of a type whose fields have different names, are left
out for their zero at most, and are always written if they take any value, is read back from the
map that it is written out as, and the strict map is the same map. Every generated record declares
a record type, and any that it declares is of this form. -/
theorem restore_record :
    (∀ s : Schema, s.Restorable → ∀ r : Record s,
      s.recordType.ofMap (s.recordType.toMap r) = .ok r ∧
        s.recordType.toMap? r = .ok (s.recordType.toMap r)) ∧
    ∀ (o : RenderOptions) (i : Interface) (m : ClientModule), clientModule o i = .ok m →
      (∃ s, m.record.Declares s) ∧ ∀ s, m.record.Declares s → s.Restorable := by
  refine ⟨fun s hs r => ⟨hs.ofMap_toMap r, ?_⟩, fun o i m hm => ⟨exists_declares hm, ?_⟩⟩
  · rw [RecordType.toMap?_eq, hs.faults_eq_nil]
  · exact fun s => RecordDecl.Declares.restorable hm

/-- A headset: what is empty or zero is left out, except a value of any kind. -/
def headsetSchema : Schema := [
  ⟨"Name", .string, "omitEmpty"⟩, ⟨"Volume", .uint16, "omitEmpty, writable"⟩,
  ⟨"Paths", .paths, "writable"⟩, ⟨"Extra", .variant, ""⟩]

/-- A nameless headset at volume 3, with a path and a zero for its extra value. -/
def headset : Record headsetSchema :=
  (((Record.zero headsetSchema).put ⟨1, by decide⟩ (3 : UInt16)).put ⟨2, by decide⟩
    [(⟨"/hs"⟩ : ObjectPath)]).put ⟨3, by decide⟩ (Variant.byte 0)

theorem restore_record_headset :
    (headsetSchema.recordType.toMap headset).entries =
        [("Volume", .uint16 3), ("Paths", .array [.path ⟨"/hs"⟩]), ("Extra", .byte 0)] ∧
      headsetSchema.recordType.ofMap (headsetSchema.recordType.toMap headset) = .ok headset :=
  ⟨rfl, (restore_record.1 headsetSchema (by decide) headset).1⟩

end BusDoc.Binding
