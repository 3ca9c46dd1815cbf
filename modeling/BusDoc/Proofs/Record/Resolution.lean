import BusDoc.Proofs.Record.Flatten

/-!
# What a field table says

The directives of a tag are folded one after the other into a few settings. If none is refused, the
settings tell which directives the tag lists, wherever they stand in it; but of several directives
that name a field, they keep the last one only.

* `step_eq_ok`: the four kinds of directives.
* `tells_of_parse`: the settings of a tag against its directives.
* `resolves_of_mem`: a field that resolved has the settings of its tag, is the first of its name,
  and is tied to the field that its tag names last.
* `value?_eq_none_iff`: when such a field has no entry in the map of a record.
-/

namespace BusDoc

open Result Text

/-! ## Tags -/

namespace Directives

/-- The directive that leaves a field out always. -/
def ignoring : List Char := "ignore".toList

/-- The field that the directive names, if it leaves a field out while another one is true. -/
def flag? (w : List Char) : Option String :=
  match cut? ['='] w with
  | some (key, name) => if trim key = ignoring then some (String.ofList (trim name)) else none
  | none => none

/-- The fields that a tag names, in the order of its directives. -/
def flags (tag : String) : List String := (split tag).filterMap flag?

/-- The directive leaves a field out while its value is zero. -/
def IsOmitting (w : List Char) : Prop := w = "omitEmpty".toList ∨ w = "omitempty".toList

instance (w : List Char) : Decidable (IsOmitting w) := inferInstanceAs (Decidable (_ ∨ _))

/-- The directive that marks a field as settable. -/
def marking : List Char := "writable".toList

theorem step_of_isOmitting {w : List Char} (h : IsOmitting w) (d : Directives) :
    d.step w = .ok { d with omitEmpty := true } := by
  rcases h with rfl | rfl <;> rfl

theorem step_marking (d : Directives) : d.step marking = .ok { d with writable := true } := rfl

theorem step_eq_ok {d d' : Directives} {w : List Char} (h : d.step w = .ok d') :
    (w = ignoring ∧ d' = { d with skip := true }) ∨
    (∃ name, flag? w = some name ∧ d' = { d with skipIf := some name }) ∨
    (IsOmitting w ∧ d' = { d with omitEmpty := true }) ∨
    (w = marking ∧ d' = { d with writable := true }) := by
  unfold step at h
  split at h
  next key name hcut =>
    split at h
    next hkey =>
      split at h
      next => cases h
      next =>
        cases h
        have hflag : flag? w = some (String.ofList (trim name)) := by
          rw [flag?, hcut]
          exact if_pos hkey
        exact .inr (.inl ⟨_, hflag, rfl⟩)
    next => cases h
  next =>
    split at h
    next hw =>
      cases h
      exact .inl ⟨hw, rfl⟩
    next =>
      split at h
      next hw =>
        cases h
        exact .inr (.inr (.inl ⟨hw, rfl⟩))
      next =>
        split at h
        next hw =>
          cases h
          exact .inr (.inr (.inr ⟨hw, rfl⟩))
        next => cases h

/-- The settings tell which directives there are. -/
structure Tells (ws : List (List Char)) (d : Directives) : Prop where
  skip : d.skip = true ↔ ignoring ∈ ws
  skipIf : d.skipIf = (ws.filterMap flag?).getLast?
  omitEmpty : d.omitEmpty = true ↔ ∃ w ∈ ws, IsOmitting w
  writable : d.writable = true ↔ marking ∈ ws

/-- A word of its own names no field. -/
theorem flag?_eq_none {w : List Char} (h : w = ignoring ∨ IsOmitting w ∨ w = marking) :
    flag? w = none := by
  rcases h with rfl | (rfl | rfl) | rfl <;> decide

theorem Tells.step {ws : List (List Char)} {d d' : Directives} {w : List Char} (h : Tells ws d)
    (hstep : d.step w = .ok d') : Tells (ws ++ [w]) d' := by
  rcases step_eq_ok hstep with ⟨rfl, rfl⟩ | ⟨name, hname, rfl⟩ | ⟨hw, rfl⟩ | ⟨rfl, rfl⟩
  · have homit : ¬ IsOmitting ignoring := by decide
    have hmark : marking ≠ ignoring := by decide
    have hflag : flag? ignoring = none := flag?_eq_none (.inl rfl)
    constructor <;> simp [h.skipIf, h.omitEmpty, h.writable, homit, hmark, hflag]
  · -- a directive that names a field is none of the words
    have hword : ¬ (w = ignoring ∨ IsOmitting w ∨ w = marking) := by
      intro hw
      rw [flag?_eq_none hw] at hname
      cases hname
    simp only [not_or] at hword
    obtain ⟨hskip, homit, hmark⟩ := hword
    constructor <;>
      simp [h.skip, h.omitEmpty, h.writable, hname, homit, Ne.symm hskip, Ne.symm hmark]
  · have hskip : ignoring ≠ w := by rintro rfl; revert hw; decide
    have hmark : marking ≠ w := by rintro rfl; revert hw; decide
    have hflag : flag? w = none := flag?_eq_none (.inr (.inl hw))
    refine ⟨?_, ?_, ?_, ?_⟩
    · simp [h.skip, hskip]
    · simp [h.skipIf, hflag]
    · exact ⟨fun _ => ⟨w, by simp, hw⟩, fun _ => rfl⟩
    · simp [h.writable, hmark]
  · have homit : ¬ IsOmitting marking := by decide
    have hskip : ignoring ≠ marking := by decide
    have hflag : flag? marking = none := flag?_eq_none (.inr (.inr rfl))
    constructor <;> simp [h.skip, h.skipIf, h.omitEmpty, homit, hskip, hflag]

/-- What is read of a tag tells which directives are in it. -/
theorem tells_of_parse {tag : String} {d : Directives} (h : parse tag = .ok d) :
    Tells (split tag) d := by
  refine foldlM_induction (P := Tells) ?_ Tells.step h
  constructor <;> simp

end Directives

/-! ## Resolved fields -/

variable {R : Type}

namespace RecordType

variable {T : RecordType R}

theorem sibling_eq_ok {f s : Field R} {name : String} :
    T.sibling f name = .ok s ↔
      name ≠ f.name ∧ T.field? name = some s ∧ (s.get T.initial).kind = .bool := by
  unfold sibling
  by_cases hname : name = f.name
  · simp [hname]
  · rw [if_neg hname]
    cases hs : T.field? name with
    | none => simp
    | some t =>
      by_cases hkind : (t.get T.initial).kind = .bool
      · simp only [hkind, if_true, Except.ok.injEq, Option.some.injEq]
        exact ⟨fun h => ⟨hname, h, h ▸ hkind⟩, fun h => h.2.1⟩
      · simp only [hkind, if_false, reduceCtorEq, Option.some.injEq, false_iff]
        rintro ⟨-, rfl, hk⟩
        exact hkind hk

theorem resolveField_eq_ok_iff {seen : List String} {f : Field R} {d : Directives}
    {s : Option (Field R)} :
    T.resolveField seen f = .ok (d, s) ↔
      f.name ∉ seen ∧ Directives.parse f.tag = .ok d ∧
        (d.skipIf = none ∧ s = none ∨
          ∃ name g, d.skipIf = some name ∧ T.sibling f name = .ok g ∧ s = some g) := by
  unfold resolveField
  by_cases hseen : f.name ∈ seen
  · simp [hseen]
  · rw [if_neg hseen, bind_eq_ok]
    constructor
    · rintro ⟨d', hd', h⟩
      cases hflag : d'.skipIf with
      | none =>
        rw [hflag] at h
        cases h
        exact ⟨hseen, hd', .inl ⟨hflag, rfl⟩⟩
      | some name =>
        rw [hflag] at h
        obtain ⟨g, hg, h⟩ := bind_eq_ok.1 h
        cases h
        exact ⟨hseen, hd', .inr ⟨name, g, hflag, hg, rfl⟩⟩
    · rintro ⟨-, hd, ⟨hflag, rfl⟩ | ⟨name, g, hflag, hg, rfl⟩⟩
      · exact ⟨d, hd, by rw [hflag]; rfl⟩
      · refine ⟨d, hd, ?_⟩
        rw [hflag]
        exact bind_eq_ok.2 ⟨g, hg, rfl⟩

theorem resolveField_eq_ok {seen : List String} {f : Field R} {d : Directives}
    {s : Option (Field R)} (h : T.resolveField seen f = .ok (d, s)) :
    f.name ∉ seen ∧ Directives.parse f.tag = .ok d ∧ s = d.skipIf.bind T.field? := by
  obtain ⟨hnew, hd, ⟨hflag, rfl⟩ | ⟨name, g, hflag, hg, rfl⟩⟩ := resolveField_eq_ok_iff.1 h
  · exact ⟨hnew, hd, by rw [hflag, Option.bind_none]⟩
  · exact ⟨hnew, hd, by rw [hflag, Option.bind_some, (sibling_eq_ok.1 hg).2.1]⟩

/-- The field has the settings of its tag, and is the first of its name. -/
structure Resolves (T : RecordType R) (f : ResolvedField R) (d : Directives) : Prop where
  tells : Directives.Tells (Directives.split f.tag) d
  sibling : f.sibling = d.skipIf.bind T.field?
  first : T.resolved? f.name = some f

theorem find?_resolveFrom {seen : List String} {fs : List (Field R)} {f : ResolvedField R}
    {d : Directives} (hf : f ∈ T.resolveFrom seen fs) (hd : f.directives = .ok d) :
    (T.resolveFrom seen fs).find? (·.name == f.name) = some f ∧ f.name ∉ seen ∧
      Directives.parse f.tag = .ok d ∧ f.sibling = d.skipIf.bind T.field? := by
  induction fs generalizing seen with
  | nil => cases hf
  | cons g fs ih =>
    rw [resolveFrom] at hf ⊢
    rcases List.mem_cons.1 hf with rfl | hf
    · refine ⟨List.find?_cons_of_pos (by simp), ?_⟩
      cases hg : T.resolveField seen g with
      | error e =>
        rw [hg] at hd
        cases hd
      | ok ds =>
        obtain ⟨d', s⟩ := ds
        rw [hg] at hd
        cases hd
        exact resolveField_eq_ok hg
    · obtain ⟨hfind, hnew, hrest⟩ := ih hf
      rw [List.mem_cons, not_or] at hnew
      have hname : ∀ h : ResolvedField R, h.toField = g → (h.name == f.name) = false := by
        rintro h rfl
        simpa using Ne.symm hnew.1
      refine ⟨?_, hnew.2, hrest⟩
      rw [List.find?_cons_of_neg, hfind]
      rw [Bool.not_eq_true]
      refine hname _ ?_
      split <;> rfl

theorem resolves_of_mem {f : ResolvedField R} {d : Directives} (hf : f ∈ T.resolve)
    (hd : f.directives = .ok d) : T.Resolves f d := by
  obtain ⟨hfirst, -, hparse, hsibling⟩ := find?_resolveFrom hf hd
  exact ⟨Directives.tells_of_parse hparse, hsibling, hfirst⟩

/-- The name is that of a field that is true in the record. -/
def IsSet (T : RecordType R) (r : R) (name : String) : Prop :=
  ∃ s, T.field? name = some s ∧ (s.get r).asBool? = some true

end RecordType

theorem ResolvedField.value?_of_directives {f : ResolvedField R} {d : Directives}
    (h : f.directives = .ok d) (r : R) :
    f.value? r =
      if d.skip then none
      else if (f.sibling.bind fun s => (s.get r).asBool?) = some true then none
      else if d.omitEmpty && (f.get r).isZero then none else some (f.get r) := by
  unfold value? emit
  rw [h]
  dsimp only [bind, Except.bind]
  split_ifs <;> rfl

/-- A field that resolved is left out for one of three reasons. -/
theorem RecordType.value?_eq_none_iff {T : RecordType R} {f : ResolvedField R} {d : Directives}
    (hf : f ∈ T.resolve) (hd : f.directives = .ok d) (r : R) :
    f.value? r = none ↔
      Directives.ignoring ∈ Directives.split f.tag ∨
      (∃ name, (Directives.flags f.tag).getLast? = some name ∧ T.IsSet r name) ∨
      ((∃ w ∈ Directives.split f.tag, Directives.IsOmitting w) ∧ (f.get r).isZero = true) := by
  have hres := resolves_of_mem hf hd
  have hflag : (f.sibling.bind fun s => (s.get r).asBool?) = some true ↔
      ∃ name, (Directives.flags f.tag).getLast? = some name ∧ T.IsSet r name := by
    rw [hres.sibling, hres.tells.skipIf]
    simp only [Option.bind_eq_some_iff, Directives.flags, RecordType.IsSet]
    constructor
    · rintro ⟨s, ⟨name, hname, hs⟩, htrue⟩
      exact ⟨name, hname, s, hs, htrue⟩
    · rintro ⟨name, hname, s, hs, htrue⟩
      exact ⟨s, ⟨name, hname, hs⟩, htrue⟩
  rw [← hres.tells.skip, ← hflag, ← hres.tells.omitEmpty, ← Bool.and_eq_true,
    ResolvedField.value?_of_directives hd]
  clear hflag
  split_ifs with hskip hset hzero <;> simp [*]

end BusDoc
