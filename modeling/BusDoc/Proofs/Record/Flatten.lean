import BusDoc.Proofs.Result
import BusDoc.Record.Marshal

/-!
# What a map of a record holds

A field that did not resolve has no entry in the map of a record. A field whose name an earlier
field has did not resolve, so no name has two entries, and nothing is replaced while the map is
built.

* `entries_toMap`: the entries of the map are those of the fields, in the order of their
  declaration.
* `get?_toMap`: the entry under a name is that of the first field with the name.
* `toMap?_eq`: the strict map is that map, unless a field did not resolve.
-/

namespace BusDoc

open Result

variable {R : Type}

namespace ResolvedField

/-- The value that the field has in the map of a record. A field that did not resolve has none. -/
def value? (f : ResolvedField R) (r : R) : Option Variant := (f.emit r).toOption.join

/-- The entry that the field has in the map of a record. -/
def pair? (f : ResolvedField R) (r : R) : Option (String × Variant) :=
  (f.value? r).map (f.name, ·)

/-- The entries that the fields have in the map of a record. -/
def entries (fs : List (ResolvedField R)) (r : R) : List (String × Variant) :=
  fs.filterMap (·.pair? r)

theorem entries_cons_of_none {f : ResolvedField R} {r : R} (h : f.value? r = none)
    (fs : List (ResolvedField R)) : entries (f :: fs) r = entries fs r :=
  List.filterMap_cons_none (by rw [pair?, h, Option.map_none])

theorem entries_cons_of_value? {f : ResolvedField R} {r : R} {v : Variant}
    (h : f.value? r = some v) (fs : List (ResolvedField R)) :
    entries (f :: fs) r = (f.name, v) :: entries fs r :=
  List.filterMap_cons_some (by rw [pair?, h, Option.map_some])

theorem emit_of_fault {f : ResolvedField R} {e : MarshalError} (h : f.directives = .error e)
    (r : R) : f.emit r = .error e := by
  unfold emit
  rw [h]
  rfl

theorem value?_of_fault {f : ResolvedField R} {e : MarshalError} (h : f.directives = .error e)
    (r : R) : f.value? r = none := by
  rw [value?, emit_of_fault h]
  rfl

theorem emit_of_directives {f : ResolvedField R} {d : Directives} (h : f.directives = .ok d)
    (r : R) : f.emit r = .ok (f.value? r) := by
  unfold value? emit
  rw [h]
  dsimp only [bind, Except.bind]
  split_ifs <;> rfl

theorem emit_eq (f : ResolvedField R) (r : R) :
    f.emit r = match f.fault? with
      | none => .ok (f.value? r)
      | some e => .error e := by
  unfold fault?
  cases h : f.directives with
  | error e => exact emit_of_fault h r
  | ok d => exact emit_of_directives h r

end ResolvedField

namespace RecordType

variable {T : RecordType R}

theorem resolveFrom_cons (seen : List String) (f : Field R) (fs : List (Field R)) :
    ∃ g, g.toField = f ∧ (f.name ∈ seen → ∃ e, g.directives = .error e) ∧
      T.resolveFrom seen (f :: fs) = g :: T.resolveFrom (f.name :: seen) fs := by
  refine ⟨_, ?_, fun hseen => ?_, rfl⟩
  · split <;> rfl
  · rw [resolveField, if_pos hseen]
    exact ⟨_, rfl⟩

/-- The names with an entry come once, and none of them is among the names before the fields. -/
theorem nodup_entries_resolveFrom (T : RecordType R) (r : R) (seen : List String)
    (fs : List (Field R)) :
    ((ResolvedField.entries (T.resolveFrom seen fs) r).map Prod.fst).Nodup ∧
      ∀ name ∈ seen, name ∉ (ResolvedField.entries (T.resolveFrom seen fs) r).map Prod.fst := by
  induction fs generalizing seen with
  | nil => exact ⟨List.nodup_nil, fun _ _ => List.not_mem_nil⟩
  | cons f fs ih =>
    obtain ⟨g, rfl, hfault, hcons⟩ := resolveFrom_cons (T := T) seen f fs
    obtain ⟨hnodup, hnew⟩ := ih (g.name :: seen)
    have hrest : ∀ name ∈ seen, name ∉ _ := fun name h => hnew name (List.mem_cons_of_mem _ h)
    rw [hcons]
    cases hv : g.value? r with
    | none =>
      rw [ResolvedField.entries_cons_of_none hv]
      exact ⟨hnodup, hrest⟩
    | some v =>
      rw [ResolvedField.entries_cons_of_value? hv, List.map_cons]
      refine ⟨List.nodup_cons.2 ⟨hnew _ List.mem_cons_self, hnodup⟩, fun name h => ?_⟩
      -- a field with an entry resolved, so its name is none of those before it
      have hne : name ≠ g.name := by
        rintro rfl
        obtain ⟨e, he⟩ := hfault h
        rw [ResolvedField.value?_of_fault he] at hv
        cases hv
      exact fun hmem => (List.mem_cons.1 hmem).elim hne (hrest name h)

theorem toMap_eq (T : RecordType R) (r : R) :
    T.toMap r = OrderedMap.ofList (ResolvedField.entries T.resolve r) := by
  unfold toMap OrderedMap.ofList OrderedMap.insertAll ResolvedField.entries
  rw [List.foldl_filterMap]
  congr
  funext m f
  unfold ResolvedField.pair? ResolvedField.value?
  rcases f.emit r with e | _ | v <;> rfl

theorem entries_toMap (T : RecordType R) (r : R) :
    (T.toMap r).entries = ResolvedField.entries T.resolve r := by
  rw [toMap_eq]
  exact OrderedMap.entries_ofList (T.nodup_entries_resolveFrom r [] T.fields).1

theorem entryOf?_resolveFrom (T : RecordType R) (r : R) (name : String) (seen : List String)
    (fs : List (Field R)) :
    entryOf? name (ResolvedField.entries (T.resolveFrom seen fs) r) =
      ((T.resolveFrom seen fs).find? (·.name == name)).bind (·.value? r) := by
  induction fs generalizing seen with
  | nil => rfl
  | cons f fs ih =>
    obtain ⟨g, rfl, -, hcons⟩ := resolveFrom_cons (T := T) seen f fs
    have hnew := (T.nodup_entries_resolveFrom r (g.name :: seen) fs).2 g.name List.mem_cons_self
    rw [hcons]
    cases hv : g.value? r with
    | none =>
      rw [ResolvedField.entries_cons_of_none hv]
      by_cases hname : g.name = name
      · -- no later field has an entry under the name either
        rw [List.find?_cons_of_pos (by simp [hname]), Option.bind_some, hv,
          entryOf?_eq_none_iff.2 (hname ▸ hnew)]
      · rw [List.find?_cons_of_neg (by simp [hname]), ih]
    | some v =>
      rw [ResolvedField.entries_cons_of_value? hv, entryOf?]
      by_cases hname : g.name = name
      · rw [if_pos hname, List.find?_cons_of_pos (by simp [hname]), Option.bind_some, hv]
      · rw [if_neg hname, List.find?_cons_of_neg (by simp [hname]), ih]

theorem get?_toMap (T : RecordType R) (r : R) (name : String) :
    (T.toMap r).get? name = (T.resolved? name).bind (·.value? r) := by
  rw [OrderedMap.get?, entries_toMap]
  exact T.entryOf?_resolveFrom r name [] T.fields

/-- The strict map of a record is the map, or the first fault of the record type. -/
theorem toMap?_eq (T : RecordType R) (r : R) :
    T.toMap? r = match T.faults with
      | [] => .ok (T.toMap r)
      | e :: _ => .error e := by
  unfold toMap? toMap faults
  generalize T.resolve = fs
  generalize (OrderedMap.empty : PropertyMap) = m
  induction fs generalizing m with
  | nil => rfl
  | cons f fs ih =>
    rw [List.foldlM_cons, List.foldl_cons, f.emit_eq r]
    cases h : f.fault? with
    | some e => rw [List.filterMap_cons_some h]; rfl
    | none =>
      rw [List.filterMap_cons_none h, ← ih]
      cases f.value? r <;> rfl

end RecordType

end BusDoc
