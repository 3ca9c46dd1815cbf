import BusDoc.Corpus.Assembly
import BusDoc.Proofs.Result

/-!
# Interfaces made of entries

* `addEntries_eq_ok`: adding entries puts the properties, methods and signals among them behind
  those that are there, each kind in order, and leaves the header.
* `assemble_eq_ok`, `exists_assemble`: an interface is assembled under a name that is not declared
  yet, and is then declared last.
* `assemble_of_declared`: a declared name is refused, whatever the entries are.
-/

namespace BusDoc

open Result

/-! ## Entries by kind -/

namespace Entry

/-- The entry, if it is a property. -/
def property? : Entry → Option Property
  | property p => some p
  | _ => none

/-- The entry, if it is a method. -/
def method? : Entry → Option Method
  | method m => some m
  | _ => none

/-- The entry, if it is a signal. -/
def signal? : Entry → Option SignalDecl
  | signal s => some s
  | _ => none

end Entry

namespace Interface

/-- The interface has the header of `h`. -/
def HasHeader (i h : Interface) : Prop :=
  i.name = h.name ∧ i.title = h.title ∧ i.service = h.service ∧ i.objectPath = h.objectPath ∧
    i.docs = h.docs

/-- `i` is `h` with the entries behind its members, each kind in order. -/
structure Extends (h : Interface) (entries : List Entry) (i : Interface) : Prop where
  header : i.HasHeader h
  properties : i.properties.entries =
    h.properties.entries ++ (entries.filterMap Entry.property?).map fun p => (p.name, p)
  methods : i.methods = h.methods ++ entries.filterMap Entry.method?
  signals : i.signals = h.signals ++ entries.filterMap Entry.signal?

theorem Extends.refl (h : Interface) : h.Extends [] h :=
  ⟨⟨rfl, rfl, rfl, rfl, rfl⟩, by simp, by simp, by simp⟩

theorem HasHeader.trans {i j k : Interface} (h₁ : i.HasHeader j) (h₂ : j.HasHeader k) :
    i.HasHeader k :=
  ⟨h₁.1.trans h₂.1, h₁.2.1.trans h₂.2.1, h₁.2.2.1.trans h₂.2.2.1, h₁.2.2.2.1.trans h₂.2.2.2.1,
    h₁.2.2.2.2.trans h₂.2.2.2.2⟩

theorem Extends.trans {h i j : Interface} {es fs : List Entry} (h₁ : h.Extends es i)
    (h₂ : i.Extends fs j) : h.Extends (es ++ fs) j where
  header := h₂.header.trans h₁.header
  properties := by
    rw [h₂.properties, h₁.properties, List.filterMap_append, List.map_append, List.append_assoc]
  methods := by rw [h₂.methods, h₁.methods, List.filterMap_append, List.append_assoc]
  signals := by rw [h₂.signals, h₁.signals, List.filterMap_append, List.append_assoc]

/-- One more member is the only change, and a property has a new name. -/
theorem extends_of_addEntry {i j : Interface} {e : Entry} (h : i.addEntry e = .ok j) :
    i.Extends [e] j := by
  cases e with
  | property p =>
    rw [addEntry] at h
    split at h
    next => cases h
    next hnew =>
      cases h
      have hget : i.properties.get? p.name = none := by
        simpa [OrderedMap.contains] using hnew
      exact ⟨⟨rfl, rfl, rfl, rfl, rfl⟩, OrderedMap.entries_insert_of_none hget p,
        by simp [Entry.method?], by simp [Entry.signal?]⟩
  | method m =>
    cases h
    exact ⟨⟨rfl, rfl, rfl, rfl, rfl⟩, by simp [Entry.property?], by simp [Entry.method?],
      by simp [Entry.signal?]⟩
  | signal s =>
    cases h
    exact ⟨⟨rfl, rfl, rfl, rfl, rfl⟩, by simp [Entry.property?], by simp [Entry.method?],
      by simp [Entry.signal?]⟩

theorem extends_of_addEntries {h i : Interface} {entries : List Entry}
    (hadd : h.addEntries entries = .ok i) : h.Extends entries i :=
  foldlM_induction (Extends.refl h)
    (fun hdone hstep => hdone.trans (extends_of_addEntry hstep)) hadd

end Interface

namespace Registry

theorem assemble_eq_ok {r r' : Registry} {header i : Interface} {entries : List Entry}
    {origin : String} (h : r.assemble header entries origin = .ok (i, r')) :
    header.name ∉ r.origins.keys ∧ header.addEntries entries = .ok i ∧
      r'.origins.entries = r.origins.entries ++ [(header.name, origin)] := by
  unfold assemble at h
  split at h
  next => cases h
  next hnew =>
    obtain ⟨j, hj, hpure⟩ := bind_eq_ok.1 h
    rw [pure_eq_ok] at hpure
    obtain ⟨rfl, rfl⟩ := Prod.mk.injEq .. ▸ hpure
    have hname : j.name = header.name := (Interface.extends_of_addEntries hj).header.1
    rw [hname]
    exact ⟨entryOf?_eq_none_iff.1 hnew, hj, OrderedMap.entries_insert_of_none hnew origin⟩

/-- A header with a new name is assembled as its entries can be, whatever else is declared. -/
theorem exists_assemble {r : Registry} {header i : Interface} {entries : List Entry}
    (hnew : header.name ∉ r.origins.keys) (hadd : header.addEntries entries = .ok i)
    (origin : String) :
    ∃ r', r.assemble header entries origin = .ok (i, r') ∧
      r'.origins.entries = r.origins.entries ++ [(header.name, origin)] := by
  have hget : r.origins.get? header.name = none := entryOf?_eq_none_iff.2 hnew
  have hname : i.name = header.name := (Interface.extends_of_addEntries hadd).header.1
  refine ⟨⟨r.origins.insert i.name origin⟩, ?_, ?_⟩
  · unfold assemble
    rw [hget, hadd]
    rfl
  · rw [hname]
    exact OrderedMap.entries_insert_of_none hget origin

theorem assemble_of_declared {r : Registry} {header : Interface} {first : String}
    (h : r.origins.get? header.name = some first) (entries : List Entry) (origin : String) :
    r.assemble header entries origin = .error (.duplicateInterface header.name first origin) := by
  unfold assemble
  rw [h]

end Registry

end BusDoc
