import BusDoc.Proofs.Record.Update
import BusDoc.Proofs.Value.Conversion
import BusDoc.Record.Store

/-!
# Updates that fail and updates that succeed

An entry of a map is relevant for a record if it sets a field. An update succeeds if every relevant
value converts, and otherwise fails at the first that does not; the record it was to change is then
as it was, because the entries are assigned to a copy.

* `target?_eq_some_iff`: which field an entry sets.
* `assign_eq_error_iff`, `exists_assign_iff`: when an entry fails, and when it does not.
* `exists_foldlM_assign_iff`, `foldlM_assign_eq_error_iff`: the same of a list of entries, which
  fails at its first bad one.
* `update_eq_ok_iff_entries`: the record after an update, entry by entry; so neither the order of
  the entries matters nor a second update (`update_perm`, `update_again`).
* `updateInPlace_eq`: assigning to a copy changes the whole record or nothing.
* `update_outcome`: all of this at once, for records and for shared records.
-/

namespace BusDoc

open Result

/-! ## Relevant entries -/

namespace Schema

variable {s : Schema} {initial r r' : Record s} {name : String} {v : Variant} {i : Fin s.length}
  {m : PropertyMap}

/-- An entry under the name sets the field at the place: this is the first field of the name, and
it does not resolve to directives that leave it out always. -/
structure Sets (s : Schema) (initial : Record s) (name : String) (i : Fin s.length) : Prop where
  named : (s.spec i).name = name
  first : ∀ j, j < i → (s.spec j).name ≠ name
  kept : ∀ f d, (s.recordTypeFrom initial).resolved? name = some f → f.directives = .ok d →
    d.skip = false

/-- The value converts to the type of the field that its entry sets, if it sets one. -/
def Accepts (s : Schema) (initial : Record s) (e : String × Variant) : Prop :=
  ∀ i, s.Sets initial e.1 i → ∃ x, e.2.convert (s.spec i).type = .ok x

theorem place?_eq_some_iff :
    s.place? name = some i ↔ (s.spec i).name = name ∧ ∀ j, j < i → (s.spec j).name ≠ name := by
  rw [place?, List.find?_eq_some_iff_getElem, beq_iff_eq]
  refine and_congr_right fun _ => ?_
  constructor
  · rintro ⟨n, hn, rfl, hfirst⟩ j hj
    have hj' : j.1 < n := by simpa [Fin.lt_def] using hj
    simpa using hfirst j.1 hj'
  · intro hfirst
    refine ⟨i.1, by simp, by simp, fun j hj => ?_⟩
    simpa using hfirst ⟨j, Nat.lt_trans hj i.2⟩ hj

theorem skipped_eq_false_iff {R : Type} {f : ResolvedField R} :
    f.skipped = false ↔ ∀ d, f.directives = .ok d → d.skip = false := by
  unfold ResolvedField.skipped
  cases f.directives <;> simp

theorem target?_eq_some_iff : s.target? initial name = some i ↔ s.Sets initial name i := by
  have hkept : ((s.recordTypeFrom initial).resolved? name).any ResolvedField.skipped = false ↔
      ∀ f d, (s.recordTypeFrom initial).resolved? name = some f → f.directives = .ok d →
        d.skip = false := by
    cases (s.recordTypeFrom initial).resolved? name with
    | none => simp
    | some f =>
      simp only [Option.any_some, skipped_eq_false_iff, Option.some.injEq]
      exact ⟨fun h g d hg => hg ▸ h d, fun h d => h f d rfl⟩
  rw [target?]
  constructor
  · intro h
    split at h
    next => cases h
    next hskip =>
      obtain ⟨hname, hfirst⟩ := place?_eq_some_iff.1 h
      exact ⟨hname, hfirst, hkept.1 (Bool.not_eq_true _ ▸ hskip)⟩
  · rintro ⟨hname, hfirst, hall⟩
    rw [hkept.2 hall, if_neg Bool.false_ne_true]
    exact place?_eq_some_iff.2 ⟨hname, hfirst⟩

/-! ## Failures -/

theorem convert_eq_error_iff {t : FieldType} {e : MarshalError} :
    v.convert t = .error e ↔ (∀ x, v.convert t ≠ .ok x) ∧ e = .conversion t v.kind := by
  unfold Variant.convert
  cases v.read? t with
  | some x => simp
  | none => simp [eq_comm]

theorem set_eq_error_iff {e : MarshalError} :
    r.set i v = .error e ↔ v.convert (s.spec i).type = .error e := by
  unfold Record.set
  cases v.convert (s.spec i).type <;> simp [Except.map]

theorem assign_eq_error_iff {e : MarshalError} :
    (s.recordTypeFrom initial).assign r (name, v) = .error e ↔
      ∃ i, s.Sets initial name i ∧ (∀ x, v.convert (s.spec i).type ≠ .ok x) ∧
        e = .typeMismatch name (s.spec i).type v.kind := by
  simp only [← target?_eq_some_iff]
  rw [assign_eq]
  cases ht : s.target? initial name with
  | none => simp
  | some i =>
    simp only [mapError_eq_error, set_eq_error_iff, convert_eq_error_iff, name_of_target? ht,
      Option.some.injEq]
    constructor
    · rintro ⟨_, ⟨hnone, rfl⟩, rfl⟩
      exact ⟨i, rfl, hnone, rfl⟩
    · rintro ⟨_, rfl, hnone, rfl⟩
      exact ⟨_, ⟨hnone, rfl⟩, rfl⟩

theorem exists_assign_iff {e : String × Variant} :
    (∃ r', (s.recordTypeFrom initial).assign r e = .ok r') ↔ s.Accepts initial e := by
  constructor
  · rintro ⟨r', h⟩ i hi
    by_contra hnone
    rw [not_exists] at hnone
    rw [assign_eq_error_iff.2 ⟨i, hi, hnone, rfl⟩] at h
    cases h
  · intro haccepts
    cases h : (s.recordTypeFrom initial).assign r e with
    | ok r' => exact ⟨r', rfl⟩
    | error err =>
      obtain ⟨i, hi, hnone, -⟩ := assign_eq_error_iff.1 h
      obtain ⟨x, hx⟩ := haccepts i hi
      exact absurd hx (hnone x)

/-- Entries are assigned one after the other if each of them can be, whatever the record is. -/
theorem exists_foldlM_assign_iff {es : List (String × Variant)} :
    (∃ r', es.foldlM (s.recordTypeFrom initial).assign r = .ok r') ↔
      ∀ e ∈ es, s.Accepts initial e := by
  induction es generalizing r with
  | nil => simp [pure, Except.pure]
  | cons e es ih =>
    simp only [foldlM_cons_eq_ok, List.forall_mem_cons]
    constructor
    · rintro ⟨r', u, hu, hr'⟩
      exact ⟨exists_assign_iff.1 ⟨u, hu⟩, ih.1 ⟨r', hr'⟩⟩
    · rintro ⟨he, hes⟩
      obtain ⟨u, hu⟩ := exists_assign_iff (r := r).2 he
      obtain ⟨r', hr'⟩ := ih.2 hes
      exact ⟨r', u, hu, hr'⟩

/-- `e` is the error of the first entry whose value does not convert. -/
def FailsWith (s : Schema) (initial : Record s) (es : List (String × Variant)) (e : MarshalError) :
    Prop :=
  ∃ before name v after i, es = before ++ (name, v) :: after ∧
    (∀ b ∈ before, s.Accepts initial b) ∧ s.Sets initial name i ∧
    (∀ x, v.convert (s.spec i).type ≠ .ok x) ∧ e = .typeMismatch name (s.spec i).type v.kind

theorem foldlM_assign_eq_error_iff {es : List (String × Variant)} {e : MarshalError} :
    es.foldlM (s.recordTypeFrom initial).assign r = .error e ↔ s.FailsWith initial es e := by
  rw [foldlM_eq_error_iff]
  constructor
  · rintro ⟨before, ⟨name, v⟩, after, u, rfl, hu, herr⟩
    obtain ⟨i, hi, hnone, rfl⟩ := assign_eq_error_iff.1 herr
    exact ⟨before, name, v, after, i, rfl, exists_foldlM_assign_iff.1 ⟨u, hu⟩, hi, hnone, rfl⟩
  · rintro ⟨before, name, v, after, i, rfl, hbefore, hi, hnone, rfl⟩
    obtain ⟨u, hu⟩ := exists_foldlM_assign_iff (r := r).2 hbefore
    exact ⟨before, (name, v), after, u, rfl, hu, assign_eq_error_iff.2 ⟨i, hi, hnone, rfl⟩⟩

/-! ## Successes -/

theorem given?_of_mem {e : String × Variant} (he : e ∈ m.entries) (hi : s.Sets initial e.1 i) :
    s.given? initial m.entries i = some e.2 := by
  have htarget := target?_eq_some_iff.2 hi
  rw [given?, hi.named, if_pos htarget]
  exact (entryOf?_eq_some_iff m.keys_nodup).2 he

theorem exists_of_given? (h : s.given? initial m.entries i = some v) :
    ∃ e ∈ m.entries, s.Sets initial e.1 i ∧ e.2 = v := by
  unfold given? at h
  split at h
  next htarget => exact ⟨_, mem_keys_of_entryOf? h, target?_eq_some_iff.1 htarget, rfl⟩
  next => cases h

/-- After an update every field that an entry sets holds the converted value, and every other one
what it held before. -/
theorem update_eq_ok_iff_entries :
    (s.recordTypeFrom initial).update r m = .ok r' ↔
      (∀ e ∈ m.entries, ∀ i, s.Sets initial e.1 i →
        e.2.convert (s.spec i).type = .ok (r'.value i)) ∧
      ∀ i, (∀ e ∈ m.entries, ¬ s.Sets initial e.1 i) → r'.value i = r.value i := by
  rw [update_eq_ok_iff]
  constructor
  · refine fun h => ⟨fun e he i hi => ?_, fun i hnone => ?_⟩
    · have hi' := h i
      rwa [given?_of_mem he hi] at hi'
    · have hi := h i
      cases hg : s.given? initial m.entries i with
      | some v =>
        obtain ⟨e, he, hsets, -⟩ := exists_of_given? hg
        exact absurd hsets (hnone e he)
      | none =>
        rw [hg, Record.taken] at hi
        exact (Except.ok.inj hi).symm
  · rintro ⟨hset, hkept⟩ i
    cases hg : s.given? initial m.entries i with
    | some v =>
      obtain ⟨e, he, hsets, rfl⟩ := exists_of_given? hg
      exact hset e he i hsets
    | none =>
      rw [Record.taken, hkept i]
      intro e he hsets
      rw [given?_of_mem he hsets] at hg
      cases hg

theorem update_perm {n : PropertyMap} (h : n.entries.Perm m.entries) :
    (s.recordTypeFrom initial).update r n = .ok r' ↔
      (s.recordTypeFrom initial).update r m = .ok r' := by
  simp only [update_eq_ok_iff_entries, h.mem_iff]

theorem update_again (h : (s.recordTypeFrom initial).update r m = .ok r') :
    (s.recordTypeFrom initial).update r' m = .ok r' :=
  update_eq_ok_iff_entries.2 ⟨(update_eq_ok_iff_entries.1 h).1, fun _ _ => rfl⟩

end Schema

/-! ## Changes in place -/

/-- What a step leaves where `old` was: its result, or `old` beside the failure. -/
def settle {ε σ : Type} (old : σ) : Except ε σ → Except ε Unit × σ
  | .ok new => (.ok (), new)
  | .error e => (.error e, old)

namespace RecordType

variable {R : Type} {T : RecordType R}

theorem assignAll_of_ok {record next : R} {es : List (String × Variant)}
    (h : es.foldlM T.assign record = .ok next) : T.assignAll record es = (.ok (), next) := by
  induction es generalizing record with
  | nil => rw [assignAll, foldlM_nil_eq_ok.1 h]
  | cons e es ih =>
    obtain ⟨u, hu, h⟩ := foldlM_cons_eq_ok.1 h
    rw [assignAll, hu]
    exact ih h

theorem assignAll_of_error {record : R} {es : List (String × Variant)} {err : MarshalError}
    (h : es.foldlM T.assign record = .error err) :
    ∃ half, T.assignAll record es = (.error err, half) := by
  induction es generalizing record with
  | nil => cases h
  | cons e es ih =>
    rw [assignAll]
    rcases foldlM_cons_eq_error.1 h with h | ⟨u, hu, h⟩
    · exact ⟨record, by rw [h]⟩
    · rw [hu]
      exact ih h

theorem updateInPlace_eq (record : R) (m : PropertyMap) :
    T.updateInPlace record m = settle record (T.update record m) := by
  unfold updateInPlace
  cases h : T.update record m with
  | ok next =>
    rw [assignAll_of_ok h]
    rfl
  | error e =>
    obtain ⟨half, hhalf⟩ := assignAll_of_error h
    rw [hhalf]
    rfl

end RecordType

namespace Stores

variable {R : Type} {T : RecordType R} {stores : Stores R} {handle : Nat} {record : R}

theorem updateInPlace_eq (h : stores.read? handle = some record) (m : PropertyMap) :
    stores.updateInPlace T handle m = settle stores (stores.update T handle m) := by
  rw [updateInPlace, update, h]
  dsimp only
  rw [T.updateInPlace_eq]
  cases T.update record m with
  | ok next => rfl
  | error e => exact congrArg (Prod.mk _) (write_self h)

theorem replaceInPlace_eq (m : PropertyMap) :
    stores.replaceInPlace T handle m = settle stores (stores.replace T handle m) := by
  unfold replaceInPlace replace
  cases h : T.ofMap m with
  | ok built =>
    rw [T.assignAll_of_ok h]
    rfl
  | error e =>
    obtain ⟨half, hhalf⟩ := T.assignAll_of_error h
    rw [hhalf]
    rfl

end Stores

open Schema in
/-- **The outcome of an update.** For a record type with typed fields and any fresh record: an
update succeeds exactly if every value converts to the type of the field that its entry sets. Then
each of these fields holds the converted value and every other one what it held; the same comes of
the entries in another order, and a second update changes nothing. Otherwise the failure is the
mismatch of the first entry whose value does not convert. A record built from a map is the fresh
record updated. A failed update in place leaves the record as it was, and so do a failed update and
a failed replacement of a shared record, whose handle reads the new record after a success. -/
theorem update_outcome (s : Schema) (initial r : Record s) (m : PropertyMap) :
    let T := s.recordTypeFrom initial
    ((∃ r', T.update r m = .ok r') ↔ ∀ e ∈ m.entries, s.Accepts initial e) ∧
    (∀ r', T.update r m = .ok r' ↔
      (∀ e ∈ m.entries, ∀ i, s.Sets initial e.1 i →
        e.2.convert (s.spec i).type = .ok (r'.value i)) ∧
      ∀ i, (∀ e ∈ m.entries, ¬ s.Sets initial e.1 i) → r'.value i = r.value i) ∧
    (∀ r', T.update r m = .ok r' →
      (∀ n : PropertyMap, n.entries.Perm m.entries → T.update r n = .ok r') ∧
      T.update r' m = .ok r') ∧
    (∀ e, T.update r m = .error e ↔ s.FailsWith initial m.entries e) ∧
    T.ofMap m = T.update initial m ∧
    T.updateInPlace r m = settle r (T.update r m) ∧
    ∀ (stores : Stores (Record s)) (handle : Nat), stores.read? handle = some r →
      stores.updateInPlace T handle m = settle stores ((T.update r m).map (stores.write handle)) ∧
      stores.replaceInPlace T handle m = settle stores ((T.ofMap m).map (stores.write handle)) ∧
      ∀ r', (stores.write handle r').read? handle = some r' := by
  intro T
  have hsettled (r' : Record s) (h : T.update r m = .ok r') :
      (∀ n : PropertyMap, n.entries.Perm m.entries → T.update r n = .ok r') ∧
        T.update r' m = .ok r' := ⟨fun n hn => (update_perm hn).2 h, update_again h⟩
  refine ⟨exists_foldlM_assign_iff, fun _ => update_eq_ok_iff_entries, hsettled,
    fun _ => foldlM_assign_eq_error_iff, rfl, T.updateInPlace_eq r m, ?_⟩
  intro stores handle hread
  have hupdate : stores.updateInPlace T handle m =
      settle stores ((T.update r m).map (stores.write handle)) := by
    rw [Stores.updateInPlace_eq hread, Stores.update, hread]
  exact ⟨hupdate, Stores.replaceInPlace_eq m, Stores.read?_write (by rw [hread]; rfl)⟩

/-- A mixer has a name and a level, and a token that takes no part in maps. -/
def mixerSchema : Schema :=
  [⟨"Name", .string, ""⟩, ⟨"Level", .uint16, ""⟩, ⟨"Token", .string, "ignore"⟩]

/-- A change with a new name, a token, and a level that is no number. -/
def mixerChange : PropertyMap :=
  .ofList [("Name", .str "hall"), ("Token", .bool true), ("Level", .str "loud")]

theorem update_outcome_mixer :
    (Stores.one (Record.zero mixerSchema)).updateInPlace
        (mixerSchema.recordTypeFrom (.zero _)) 0 mixerChange =
      (.error (.typeMismatch "Level" .uint16 .str), .one (.zero _)) :=
  ((update_outcome mixerSchema (.zero _) (.zero _) mixerChange).2.2.2.2.2.2 (.one _) 0 rfl).1

end BusDoc
