import BusDoc.Bus.Signal
import BusDoc.Proofs.Record.Update

/-!
# Updates and refreshes

A record that was built from a map and then updated from others, one after the other, is the
record that is built from all the maps laid over one another. So a shared record that is fed with
changes of properties is up to date: to build it anew from all that was heard changes nothing.

* `ofMap_overlay`: one update.
* `ofMap_overlays`: any number of them.
* `foldlM_applyTo_eq_ok`: changes that reach a shared record come to one write of the record that
  they make.
* `refresh_unchanged`: both statements, for records and for shared records.
-/

namespace BusDoc

open Result

section Refresh

variable {s : Schema} {initial : Record s}

theorem Schema.given?_overlay (m n : PropertyMap) (i : Fin s.length) :
    s.given? initial (m.overlay n).entries i =
      (s.given? initial n.entries i).or (s.given? initial m.entries i) := by
  unfold given?
  split
  next => exact m.get?_overlay n (s.spec i).name
  next => rfl

theorem ofMap_overlay {m n : PropertyMap} {r r' : Record s}
    (hm : (s.recordTypeFrom initial).ofMap m = .ok r)
    (hn : (s.recordTypeFrom initial).update r n = .ok r') :
    (s.recordTypeFrom initial).ofMap (m.overlay n) = .ok r' := by
  have hsecond := Schema.update_eq_ok_iff.1 hn
  refine Schema.update_eq_ok_iff.2 fun i => ?_
  rw [Schema.given?_overlay]
  have hi := hsecond i
  cases hg : s.given? initial n.entries i with
  | some v =>
    rw [hg] at hi
    exact hi
  | none =>
    -- the update has nothing for the field, so it is as the first map made it
    rw [hg, Record.taken] at hi
    rw [Option.none_or, ← hi]
    exact Schema.update_eq_ok_iff.1 hm i

theorem ofMap_overlays {m : PropertyMap} {ms : List PropertyMap} {r r' : Record s}
    (hm : (s.recordTypeFrom initial).ofMap m = .ok r)
    (hms : ms.foldlM (s.recordTypeFrom initial).update r = .ok r') :
    (s.recordTypeFrom initial).ofMap (ms.foldl OrderedMap.overlay m) = .ok r' := by
  induction ms generalizing m r with
  | nil =>
    rw [foldlM_nil_eq_ok] at hms
    exact hms ▸ hm
  | cons n ms ih =>
    obtain ⟨u, hu, hrest⟩ := foldlM_cons_eq_ok.1 hms
    exact ih (ofMap_overlay hm hu) hrest

end Refresh

/-! ## Shared records -/

section Shared

variable {R : Type} {T : RecordType R} {handle : Nat}

theorem replace_eq_ok_iff {stores filled : Stores R} {m : PropertyMap} :
    stores.replace T handle m = .ok filled ↔
      ∃ r, T.ofMap m = .ok r ∧ filled = stores.write handle r := by
  unfold Stores.replace
  cases T.ofMap m with
  | error e => simp [Except.map]
  | ok r => simp [Except.map, eq_comm]

theorem applyTo_eq_ok {c : PropertyChange} {stores stores' : Stores R} {r : R}
    (hr : stores.read? handle = some r) (h : c.applyTo T handle stores = .ok stores') :
    ∃ r', T.update r c.changed = .ok r' ∧ stores' = stores.write handle r' := by
  unfold PropertyChange.applyTo Stores.update at h
  rw [hr] at h
  dsimp only at h
  cases hu : T.update r c.changed with
  | error e =>
    rw [hu] at h
    cases h
  | ok r' =>
    rw [hu] at h
    cases h
    exact ⟨r', rfl, rfl⟩

/-- Changes that reach a shared record come to one write, of the record that they make. -/
theorem foldlM_applyTo_eq_ok {cs : List PropertyChange} {stores stores' : Stores R} {r : R}
    (hr : stores.read? handle = some r)
    (h : cs.foldlM (fun st c => c.applyTo T handle st) stores = .ok stores') :
    ∃ r', (cs.map PropertyChange.changed).foldlM T.update r = .ok r' ∧
      stores' = stores.write handle r' := by
  induction cs generalizing stores r with
  | nil =>
    rw [foldlM_nil_eq_ok] at h
    exact ⟨r, rfl, by rw [← h, Stores.write_self hr]⟩
  | cons c cs ih =>
    obtain ⟨next, hnext, hrest⟩ := foldlM_cons_eq_ok.1 h
    obtain ⟨u, hu, rfl⟩ := applyTo_eq_ok hr hnext
    have hread : (stores.write handle u).read? handle = some u :=
      Stores.read?_write (by rw [hr]; rfl) u
    obtain ⟨r', hr', rfl⟩ := ih hread hrest
    exact ⟨r', foldlM_cons_eq_ok.2 ⟨u, hu, hr'⟩, Stores.write_write _ _ _ _⟩

end Shared

/-- **Updates equal a refresh.** For a record type with typed fields and any fresh record: if a
record is built from a map and every one of a list of maps updates it, it is the record that is
built from all of them laid over one another, which does not fail. So if a shared record was
replaced from a map and changes of properties were applied to it, its handle reads the record that
the accumulated properties give, and the shared records are those that replacing it from the
accumulated properties leaves, be it at the start or once more at the end. -/
theorem refresh_unchanged (s : Schema) (initial : Record s) :
    (∀ (m : PropertyMap) (ms : List PropertyMap) (r r' : Record s),
      (s.recordTypeFrom initial).ofMap m = .ok r →
      ms.foldlM (s.recordTypeFrom initial).update r = .ok r' →
      (s.recordTypeFrom initial).ofMap (ms.foldl OrderedMap.overlay m) = .ok r') ∧
    ∀ (stores filled fed : Stores (Record s)) (handle : Nat) (m : PropertyMap)
      (cs : List PropertyChange),
      (stores.read? handle).isSome →
      stores.replace (s.recordTypeFrom initial) handle m = .ok filled →
      cs.foldlM (fun st c => c.applyTo (s.recordTypeFrom initial) handle st) filled = .ok fed →
      let known := (cs.map PropertyChange.changed).foldl OrderedMap.overlay m
      (∃ r, (s.recordTypeFrom initial).ofMap known = .ok r ∧ fed.read? handle = some r) ∧
        stores.replace (s.recordTypeFrom initial) handle known = .ok fed ∧
        fed.replace (s.recordTypeFrom initial) handle known = .ok fed := by
  refine ⟨fun m ms r r' hm hms => ofMap_overlays hm hms, ?_⟩
  intro stores filled fed handle m cs hvalid hfill hfeed known
  obtain ⟨r, hr, rfl⟩ := replace_eq_ok_iff.1 hfill
  obtain ⟨r', hr', rfl⟩ := foldlM_applyTo_eq_ok (Stores.read?_write hvalid r) hfeed
  have hknown : (s.recordTypeFrom initial).ofMap known = .ok r' := ofMap_overlays hr hr'
  rw [Stores.write_write]
  refine ⟨⟨r', hknown, Stores.read?_write hvalid r'⟩, replace_eq_ok_iff.2 ⟨r', hknown, rfl⟩, ?_⟩
  exact replace_eq_ok_iff.2 ⟨r', hknown, (Stores.write_write _ _ _ _).symm⟩

/-- A speaker has a name and a volume. -/
def speakerSchema : Schema := [⟨"Name", .string, ""⟩, ⟨"Volume", .uint16, "writable"⟩]

/-- The properties of a speaker when it is found. -/
def speakerFound : PropertyMap := .ofList [("Name", .str "hall"), ("Volume", .byte 3)]

/-- Two changes: one of the volume, and one of the name and of a property that no field has. -/
def speakerChanges : List PropertyMap :=
  [.ofList [("Volume", .uint32 40)], .ofList [("Muted", .bool true), ("Name", .str "attic")]]

/-- The changes as they are heard. -/
def speakerHeard : List PropertyChange :=
  speakerChanges.map fun changed => ⟨"org.example.Speaker1", changed, []⟩

theorem refresh_unchanged_speaker :
    let T := speakerSchema.recordTypeFrom (.zero _)
    let known := speakerChanges.foldl OrderedMap.overlay speakerFound
    ∃ r : Record speakerSchema, r.values = [("Name", .str "attic"), ("Volume", .uint16 40)] ∧
      T.ofMap known = .ok r ∧
      ∃ filled fed, (Stores.one (.zero _)).replace T 0 speakerFound = .ok filled ∧
        speakerHeard.foldlM (fun st c => c.applyTo T 0 st) filled = .ok fed ∧
        fed.read? 0 = some r ∧ (Stores.one (.zero _)).replace T 0 known = .ok fed := by
  intro T known
  obtain ⟨hrecords, hshared⟩ := refresh_unchanged speakerSchema (.zero _)
  have hmade := hrecords speakerFound speakerChanges _ _ rfl rfl
  obtain ⟨⟨r, hr, hread⟩, hagain, -⟩ :=
    hshared (.one (.zero _)) _ _ 0 speakerFound speakerHeard rfl rfl rfl
  obtain rfl := Except.ok.inj (hmade.symm.trans hr)
  exact ⟨_, rfl, hmade, _, _, rfl, rfl, hread, hagain⟩

end BusDoc
