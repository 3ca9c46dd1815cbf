import BusDoc.Proofs.Result
import BusDoc.Record.Schema

/-!
# What an update does

The entries of a map set the fields that they name, each of them one field, and different entries
different fields. So the order of the entries does not matter, and an update is known field by
field.

* `map_resolve`, `map_resolved?`: resolving the fields of a record type keeps their declarations.
* `assign_eq`: an entry sets the first field of its name, unless that is always left out.
* `update_eq_ok_iff`: an update succeeds with exactly that record in which every field holds what
  its entry converts to, or what it held before if it has none.
-/

namespace BusDoc

open Result

/-! ## Resolved fields -/

namespace RecordType

variable {R : Type}

theorem map_resolveFrom (T : RecordType R) (seen : List String) (fs : List (Field R)) :
    (T.resolveFrom seen fs).map ResolvedField.toField = fs := by
  induction fs generalizing seen with
  | nil => rfl
  | cons f fs ih =>
    rw [resolveFrom, List.map_cons, ih]
    congr 1
    split <;> rfl

theorem map_resolve (T : RecordType R) : T.resolve.map ResolvedField.toField = T.fields :=
  T.map_resolveFrom [] T.fields

theorem map_resolved? (T : RecordType R) (name : String) :
    (T.resolved? name).map ResolvedField.toField = T.field? name := by
  rw [field?, ← T.map_resolve, List.find?_map]
  rfl

end RecordType

/-! ## Typed fields -/

namespace Record

variable {s : Schema}

/-- What a field takes: what the value that is given for it converts to, or what it holds if none is
given. -/
def taken (r : Record s) (i : Fin s.length) :
    Option Variant → Except MarshalError (s.spec i).type.Carrier
  | some v => v.convert (s.spec i).type
  | none => .ok (r.value i)

theorem taken_congr {r u : Record s} {i : Fin s.length} (h : u.value i = r.value i)
    (given : Option Variant) : u.taken i given = r.taken i given := by
  cases given with
  | none => rw [taken, taken, h]
  | some v => rfl

end Record

namespace Schema

variable {s : Schema} {initial : Record s}

/-- The record type that the schema declares, if a fresh record is the given one. -/
def recordTypeFrom (s : Schema) (initial : Record s) : RecordType (Record s) :=
  { s.recordType with initial }

/-- The place of the first field with the given name. -/
def place? (s : Schema) (name : String) : Option (Fin s.length) :=
  (List.finRange s.length).find? fun i => (s.spec i).name == name

/-- The place of the field that an entry under the name sets: the first of the name, unless it is
always left out. -/
def target? (s : Schema) (initial : Record s) (name : String) : Option (Fin s.length) :=
  if ((s.recordTypeFrom initial).resolved? name).any ResolvedField.skipped then none
  else s.place? name

/-- The value that the entries give for a field. -/
def given? (s : Schema) (initial : Record s) (es : List (String × Variant)) (i : Fin s.length) :
    Option Variant :=
  if s.target? initial (s.spec i).name = some i then entryOf? (s.spec i).name es else none

theorem name_of_target? {name : String} {i : Fin s.length} (h : s.target? initial name = some i) :
    (s.spec i).name = name := by
  unfold target? at h
  split at h
  next => cases h
  next => simpa using List.find?_some h

theorem field?_recordTypeFrom (name : String) :
    (s.recordTypeFrom initial).field? name = (s.place? name).map s.field := by
  show ((List.finRange s.length).map s.field).find? _ = _
  rw [List.find?_map]
  rfl

theorem assign_eq (r : Record s) (name : String) (v : Variant) :
    (s.recordTypeFrom initial).assign r (name, v) =
      match s.target? initial name with
      | none => .ok r
      | some i => (r.set i v).mapError (MarshalError.forField (s.spec i).name) := by
  have hplace := (s.recordTypeFrom initial).map_resolved? name
  rw [field?_recordTypeFrom] at hplace
  unfold RecordType.assign target?
  cases hf : (s.recordTypeFrom initial).resolved? name with
  | none =>
    rw [hf] at hplace
    rw [Option.map_eq_none_iff.1 hplace.symm]
    rfl
  | some f =>
    rw [hf] at hplace
    obtain ⟨i, hi, hfield⟩ := Option.map_eq_some_iff.1 hplace.symm
    rw [hi]
    by_cases hskip : f.skipped
    · simp [hskip]
    · simp only [Option.any_some, hskip, Bool.false_eq_true, if_false, ← hfield]
      rfl

/-! ## Entries -/

theorem given?_cons_of_target {name : String} {v : Variant} {es : List (String × Variant)}
    {i : Fin s.length} (h : s.target? initial name = some i) :
    s.given? initial ((name, v) :: es) i = some v := by
  unfold given?
  rw [name_of_target? h, if_pos h, entryOf?, if_pos rfl]

theorem given?_cons_of_not_target {name : String} {v : Variant} {es : List (String × Variant)}
    {i : Fin s.length} (h : s.target? initial name ≠ some i) :
    s.given? initial ((name, v) :: es) i = s.given? initial es i := by
  unfold given?
  by_cases hi : s.target? initial (s.spec i).name = some i
  · have hname : name ≠ (s.spec i).name := fun e => h (e ▸ hi)
    rw [if_pos hi, if_pos hi, entryOf?, if_neg hname]
  · rw [if_neg hi, if_neg hi]

theorem given?_eq_none_of_notMem {name : String} {es : List (String × Variant)} {i : Fin s.length}
    (h : s.target? initial name = some i) (hes : name ∉ es.map Prod.fst) :
    s.given? initial es i = none := by
  unfold given?
  rw [name_of_target? h, if_pos h, entryOf?_eq_none_iff.2 hes]

/-- Entries with different keys set the fields that they are given for, and no others. -/
theorem foldlM_assign_eq_ok_iff {es : List (String × Variant)} (hes : (es.map Prod.fst).Nodup)
    {r r' : Record s} :
    es.foldlM (s.recordTypeFrom initial).assign r = .ok r' ↔
      ∀ i, r.taken i (s.given? initial es i) = .ok (r'.value i) := by
  induction es generalizing r with
  | nil =>
    rw [foldlM_nil_eq_ok]
    have hnone (i : Fin s.length) : s.given? initial [] i = none := by simp [given?, entryOf?]
    simp only [hnone, Record.taken]
    exact ⟨fun h i => h ▸ rfl, fun h => Record.ext fun i => Except.ok.inj (h i)⟩
  | cons e es ih =>
    obtain ⟨name, v⟩ := e
    rw [List.map_cons, List.nodup_cons] at hes
    simp only [foldlM_cons_eq_ok, assign_eq, ih hes.2]
    cases ht : s.target? initial name with
    | none =>
      have hgiven (i : Fin s.length) :
          s.given? initial ((name, v) :: es) i = s.given? initial es i :=
        given?_cons_of_not_target (by simp [ht])
      simp [hgiven]
    | some j =>
      have hothers {i : Fin s.length} (hi : i ≠ j) :
          s.given? initial ((name, v) :: es) i = s.given? initial es i :=
        given?_cons_of_not_target (by rw [ht]; exact fun e => hi (Option.some.inj e).symm)
      have hrest : s.given? initial es j = none := given?_eq_none_of_notMem ht hes.1
      simp only [mapError_eq_ok, Record.set_eq_ok_iff]
      constructor
      · rintro ⟨u, ⟨hset, hkept⟩, htaken⟩ i
        by_cases hi : i = j
        · subst hi
          have hlast := htaken i
          rw [hrest, Record.taken] at hlast
          rw [given?_cons_of_target ht, Record.taken, hset, hlast]
        · rw [hothers hi, ← Record.taken_congr (hkept i hi)]
          exact htaken i
      · intro htaken
        have hj := htaken j
        rw [given?_cons_of_target ht, Record.taken] at hj
        have hkept (i : Fin s.length) (hi : i ≠ j) : (r.put j (r'.value j)).value i = r.value i :=
          r.value_put_of_ne _ (Ne.symm hi)
        refine ⟨r.put j (r'.value j), ⟨by rw [Record.value_put]; exact hj, hkept⟩, fun i => ?_⟩
        by_cases hi : i = j
        · subst hi
          rw [hrest, Record.taken, Record.value_put]
        · rw [Record.taken_congr (hkept i hi), ← hothers hi]
          exact htaken i

/-- **The exact effect of an update.** It gives the record in which each field holds what its entry
converts to, and what it held before if there is no entry that sets it; it fails if there is no
such record. -/
theorem update_eq_ok_iff {r r' : Record s} {m : PropertyMap} :
    (s.recordTypeFrom initial).update r m = .ok r' ↔
      ∀ i, r.taken i (s.given? initial m.entries i) = .ok (r'.value i) :=
  foldlM_assign_eq_ok_iff m.keys_nodup

end Schema

end BusDoc
