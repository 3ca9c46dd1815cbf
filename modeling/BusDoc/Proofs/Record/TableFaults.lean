import BusDoc.Proofs.Record.Resolution
import BusDoc.Proofs.Record.Update

/-!
# Which fields of a table resolve

A field does not resolve if its name is taken, its tag is refused, or the field that its tag names
is no boolean field before or behind it. The last of these is looked up in the initial record only;
for records with typed fields that is enough, because a type whose zero is a boolean has no other
values.

* `exists_resolvesTo`: a field resolves behind the names of the fields before it.
* `resolveField_eq_error_iff`: why a field does not resolve, the first reason first.
* `fault?_eq_some_iff`: the same of a field in the table.
* `exists_bool_of_sibling`: the field that a typed field depends on is a boolean in every record.
* `resolve_exact`: the resolved table, field by field.
-/

namespace BusDoc

open Result

variable {R : Type}

namespace RecordType

variable {T : RecordType R} {name : String} {f g : Field R} {place : Nat}

/-- A field before the place has the name. -/
def NamedBefore (T : RecordType R) (name : String) (place : Nat) : Prop :=
  ∃ j g, j < place ∧ T.fields[j]? = some g ∧ g.name = name

/-- The field is the first one with the name, and stands at the place. -/
structure FirstNamed (T : RecordType R) (name : String) (place : Nat) (f : Field R) : Prop where
  here : T.fields[place]? = some f
  named : f.name = name
  first : ¬ T.NamedBefore name place

/-- Why the tag of a field is refused. -/
inductive Refuses (T : RecordType R) (f : Field R) : DirectiveFault → Prop
  /-- The tag cannot be read. -/
  | unread {fault : DirectiveFault} (hread : Directives.parse f.tag = .error fault) :
      T.Refuses f fault
  /-- The tag names the field itself. -/
  | own {d : Directives} (hread : Directives.parse f.tag = .ok d)
      (hflag : d.skipIf = some f.name) : T.Refuses f .ownValue
  /-- No field has the name that the tag gives. -/
  | missing {d : Directives} {flag : String} (hread : Directives.parse f.tag = .ok d)
      (hflag : d.skipIf = some flag) (hother : flag ≠ f.name)
      (hnone : ∀ g ∈ T.fields, g.name ≠ flag) : T.Refuses f (.noField flag)
  /-- The first field that has the name is no boolean in the initial record. -/
  | noBool {d : Directives} {flag : String} {place : Nat} {g : Field R}
      (hread : Directives.parse f.tag = .ok d) (hflag : d.skipIf = some flag)
      (hother : flag ≠ f.name) (hfirst : T.FirstNamed flag place g)
      (hkind : (g.get T.initial).kind ≠ .bool) :
      T.Refuses f (.notBool flag (g.get T.initial).kind)

/-! ## Fields by name -/

theorem field?_eq_some_iff : T.field? name = some f ↔ ∃ place, T.FirstNamed name place f := by
  rw [field?, List.find?_eq_some_iff_getElem, beq_iff_eq]
  constructor
  · rintro ⟨hname, place, hplace, rfl, hfirst⟩
    refine ⟨place, List.getElem?_eq_getElem hplace, hname, ?_⟩
    rintro ⟨j, g, hj, hg, hname'⟩
    obtain ⟨hlt, rfl⟩ := List.getElem?_eq_some_iff.1 hg
    simpa [hname'] using hfirst j hj
  · rintro ⟨place, hhere, hname, hfirst⟩
    obtain ⟨hplace, hget⟩ := List.getElem?_eq_some_iff.1 hhere
    refine ⟨hname, place, hplace, hget, fun j hj => ?_⟩
    have hne : T.fields[j].name ≠ name := fun he =>
      hfirst ⟨j, _, hj, List.getElem?_eq_getElem (Nat.lt_trans hj hplace), he⟩
    simpa using hne

theorem field?_eq_none_iff : T.field? name = none ↔ ∀ g ∈ T.fields, g.name ≠ name := by
  simp [field?]

theorem sibling_eq_error_iff {flag : String} {fault : DirectiveFault} :
    T.sibling f flag = .error fault ↔
      flag = f.name ∧ fault = .ownValue ∨
      flag ≠ f.name ∧
        (T.field? flag = none ∧ fault = .noField flag ∨
          ∃ g, T.field? flag = some g ∧ (g.get T.initial).kind ≠ .bool ∧
            fault = .notBool flag (g.get T.initial).kind) := by
  unfold sibling
  by_cases hown : flag = f.name
  · simp [hown, eq_comm]
  · rw [if_neg hown]
    cases hg : T.field? flag with
    | none => simp [hown, eq_comm]
    | some g =>
      simp only [hown, false_and, false_or, not_false_eq_true, true_and, Option.some.injEq,
        reduceCtorEq, ne_eq, exists_eq_left']
      by_cases hkind : (g.get T.initial).kind = .bool
      · simp [hkind]
      · rw [if_neg hkind, Except.error.injEq, eq_comm]
        exact (and_iff_right hkind).symm

/-! ## One field -/

/-- A tag is refused when it cannot be read, or the field that it names cannot be taken. -/
theorem refuses_iff {fault : DirectiveFault} :
    T.Refuses f fault ↔
      Directives.parse f.tag = .error fault ∨
      ∃ d flag, Directives.parse f.tag = .ok d ∧ d.skipIf = some flag ∧
        T.sibling f flag = .error fault := by
  constructor
  · rintro (hread | ⟨hread, hflag⟩ | ⟨hread, hflag, hother, hnone⟩ |
      ⟨hread, hflag, hother, hfirst, hkind⟩)
    · exact .inl hread
    · exact .inr ⟨_, _, hread, hflag, sibling_eq_error_iff.2 (.inl ⟨rfl, rfl⟩)⟩
    · have hg := field?_eq_none_iff.2 hnone
      exact .inr ⟨_, _, hread, hflag, sibling_eq_error_iff.2 (.inr ⟨hother, .inl ⟨hg, rfl⟩⟩)⟩
    · have hg := field?_eq_some_iff.2 ⟨_, hfirst⟩
      exact .inr ⟨_, _, hread, hflag,
        sibling_eq_error_iff.2 (.inr ⟨hother, .inr ⟨_, hg, hkind, rfl⟩⟩)⟩
  · rintro (hread | ⟨d, flag, hread, hflag, hs⟩)
    · exact .unread hread
    · obtain ⟨rfl, rfl⟩ | ⟨hother, ⟨hg, rfl⟩ | ⟨g, hg, hkind, rfl⟩⟩ := sibling_eq_error_iff.1 hs
      · exact .own hread hflag
      · exact .missing hread hflag hother (field?_eq_none_iff.1 hg)
      · obtain ⟨place, hfirst⟩ := field?_eq_some_iff.1 hg
        exact .noBool hread hflag hother hfirst hkind

theorem resolveField_eq_error_iff {seen : List String} {fault : DirectiveFault} :
    T.resolveField seen f = .error fault ↔
      f.name ∈ seen ∧ fault = .duplicateName ∨ f.name ∉ seen ∧ T.Refuses f fault := by
  rw [refuses_iff, resolveField]
  by_cases hseen : f.name ∈ seen
  · simp [hseen, eq_comm]
  · simp only [hseen, if_false, bind_eq_error, false_and, not_false_eq_true, true_and, false_or]
    refine or_congr_right (exists_congr fun d => ?_)
    cases hflag : d.skipIf with
    | none => simp [pure, Except.pure]
    | some flag => simp [bind_eq_error, pure, Except.pure]

/-- What a declared field becomes behind fields of the names. -/
def ResolvesTo (T : RecordType R) (seen : List String) (f : ResolvedField R) : Prop :=
  (∃ d, T.resolveField seen f.toField = .ok (d, f.sibling) ∧ f.directives = .ok d) ∨
  ∃ fault, T.resolveField seen f.toField = .error fault ∧
    f.directives = .error (.directive f.name fault) ∧ f.sibling = none

theorem exists_resolvesTo {seen : List String} {fs : List (Field R)} {f : ResolvedField R}
    (h : (T.resolveFrom seen fs)[place]? = some f) :
    T.ResolvesTo (((fs.take place).map Field.name).reverse ++ seen) f := by
  induction fs generalizing seen place with
  | nil => cases h
  | cons g fs ih =>
    rw [resolveFrom] at h
    cases place with
    | zero =>
      rw [List.getElem?_cons_zero, Option.some.injEq] at h
      subst h
      cases hg : T.resolveField seen g with
      | ok ds => exact .inl ⟨ds.1, hg, rfl⟩
      | error fault => exact .inr ⟨fault, hg, rfl, rfl⟩
    | succ place =>
      rw [List.getElem?_cons_succ] at h
      simpa using ih h

theorem mem_namesBefore :
    name ∈ ((T.fields.take place).map Field.name).reverse ++ [] ↔ T.NamedBefore name place := by
  simp only [List.append_nil, List.mem_reverse, List.mem_map, List.mem_take_iff_getElem]
  constructor
  · rintro ⟨g, ⟨j, hj, rfl⟩, hname⟩
    rw [Nat.lt_min] at hj
    exact ⟨j, _, hj.1, List.getElem?_eq_getElem hj.2, hname⟩
  · rintro ⟨j, g, hj, hg, hname⟩
    obtain ⟨hlt, hget⟩ := List.getElem?_eq_some_iff.1 hg
    exact ⟨g, ⟨j, Nat.lt_min.2 ⟨hj, hlt⟩, hget⟩, hname⟩

/-- Why the field at a place does not resolve: an earlier one has its name, or else its tag is
refused. -/
def FaultAt (T : RecordType R) (place : Nat) (f : Field R) (fault : DirectiveFault) : Prop :=
  T.NamedBefore f.name place ∧ fault = .duplicateName ∨
    ¬ T.NamedBefore f.name place ∧ T.Refuses f fault

theorem fault?_eq_some_iff {f : ResolvedField R} (h : T.resolve[place]? = some f)
    {e : MarshalError} :
    f.fault? = some e ↔ ∃ fault, T.FaultAt place f.toField fault ∧ e = .directive f.name fault := by
  have hfault {fault : DirectiveFault} :
      T.resolveField (((T.fields.take place).map Field.name).reverse ++ []) f.toField =
          .error fault ↔ T.FaultAt place f.toField fault := by
    rw [resolveField_eq_error_iff, mem_namesBefore, FaultAt]
  unfold ResolvedField.fault?
  obtain ⟨d, hd, hdir⟩ | ⟨fault, hd, hdir, -⟩ := exists_resolvesTo h
  · rw [hd] at hfault
    simp [hdir, ← hfault]
  · rw [hd] at hfault
    simp [hdir, ← hfault, eq_comm]

theorem getElem?_fields {f : ResolvedField R} (h : T.resolve[place]? = some f) :
    T.fields[place]? = some f.toField := by
  rw [← T.map_resolve, List.getElem?_map, h, Option.map_some]

/-- A field that resolved has the settings of its tag, and is tied to the first field that its tag
names, which is another one. -/
theorem sibling_of_directives {f : ResolvedField R} {d : Directives}
    (h : T.resolve[place]? = some f) (hd : f.directives = .ok d) :
    Directives.parse f.tag = .ok d ∧ (d.skipIf = none → f.sibling = none) ∧
      ∀ flag, d.skipIf = some flag →
        ∃ j g, T.FirstNamed flag j g ∧ j ≠ place ∧ f.sibling = some g := by
  obtain ⟨d', hok, hd'⟩ | ⟨fault, -, hd', -⟩ := exists_resolvesTo h
  · obtain rfl : d = d' := Except.ok.inj (hd.symm.trans hd')
    obtain ⟨-, hread, ⟨hflag, hsib⟩ | ⟨name, g, hflag, hs, hsib⟩⟩ := resolveField_eq_ok_iff.1 hok
    · have hno (flag : String) : d.skipIf ≠ some flag := by simp [hflag]
      exact ⟨hread, fun _ => hsib, fun flag he => absurd he (hno flag)⟩
    · have hsome : d.skipIf ≠ none := by simp [hflag]
      refine ⟨hread, fun he => absurd he hsome, fun flag he => ?_⟩
      obtain rfl : name = flag := Option.some.inj (hflag.symm.trans he)
      obtain ⟨hother, hg, -⟩ := sibling_eq_ok.1 hs
      obtain ⟨j, hfirst⟩ := field?_eq_some_iff.1 hg
      refine ⟨j, g, hfirst, ?_, hsib⟩
      rintro rfl
      obtain rfl : g = f.toField := Option.some.inj (hfirst.here.symm.trans (getElem?_fields h))
      exact hother hfirst.named.symm
  · rw [hd'] at hd
    cases hd

theorem sibling_eq_none_of_fault {f : ResolvedField R} {e : MarshalError}
    (h : T.resolve[place]? = some f) (he : f.directives = .error e) : f.sibling = none := by
  obtain ⟨d, -, hd⟩ | ⟨-, -, -, hsib⟩ := exists_resolvesTo h
  · rw [hd] at he
    cases he
  · exact hsib

/-- The field that another one depends on is a declared one, and a boolean at first. -/
theorem bool_of_sibling {f : ResolvedField R} (hf : f ∈ T.resolve) (hg : f.sibling = some g) :
    g ∈ T.fields ∧ (g.get T.initial).kind = .bool := by
  obtain ⟨place, h⟩ := List.mem_iff_getElem?.1 hf
  obtain ⟨d, hok, -⟩ | ⟨fault, -, -, hsib⟩ := exists_resolvesTo h
  · obtain ⟨-, -, ⟨-, hsib⟩ | ⟨name, g', -, hs, hsib⟩⟩ := resolveField_eq_ok_iff.1 hok
    · rw [hsib] at hg
      cases hg
    · obtain rfl : g' = g := Option.some.inj (hsib.symm.trans hg)
      obtain ⟨-, hname, hkind⟩ := sibling_eq_ok.1 hs
      exact ⟨List.mem_of_find?_eq_some hname, hkind⟩
  · rw [hsib] at hg
    cases hg

end RecordType

/-! ## Typed fields -/

/-- A type whose zero is a boolean is the type of booleans. -/
theorem FieldType.eq_bool_of_kind {t : FieldType} (h : (t.toVariant t.zero).kind = .bool) :
    t = .bool := by
  cases t with
  | bool => rfl
  | _ => cases h

/-- The field that a typed field depends on is a boolean in every record. -/
theorem Schema.exists_bool_of_sibling (s : Schema) {f : ResolvedField (Record s)}
    {g : Field (Record s)} (hf : f ∈ s.recordType.resolve) (hg : f.sibling = some g)
    (r : Record s) : ∃ b, g.get r = .bool b := by
  obtain ⟨hmem, hkind⟩ := RecordType.bool_of_sibling hf hg
  obtain ⟨i, -, rfl⟩ := List.mem_map.1 hmem
  have htype : (s.spec i).type = .bool := FieldType.eq_bool_of_kind hkind
  show ∃ b, (s.spec i).type.toVariant (r.value i) = .bool b
  generalize r.value i = x
  generalize (s.spec i).type = t at htype x
  subst htype
  exact ⟨x, rfl⟩

/-- **What resolves.** Resolving keeps the fields and their order. A field does not resolve exactly
if an earlier one has its name or its tag is refused; the fault names the field and gives the first
of these reasons. A field that resolves has the settings of its tag, and if the tag names a field,
it is tied to the first field of that name, which is another one. Where fields are typed and start
with their zeros, the field that another one is tied to is a boolean in every record, so the test
of its value is never skipped. -/
theorem resolve_exact (T : RecordType R) :
    T.resolve.map ResolvedField.toField = T.fields ∧
    (∀ place f, T.resolve[place]? = some f →
      (f.fault? ≠ none ↔
        T.NamedBefore f.name place ∨ ∃ fault, T.Refuses f.toField fault) ∧
      (∀ e, f.fault? = some e ↔
        ∃ fault, T.FaultAt place f.toField fault ∧ e = .directive f.name fault) ∧
      (∀ e, f.directives = .error e → f.sibling = none) ∧
      ∀ d, f.directives = .ok d →
        Directives.parse f.tag = .ok d ∧ (d.skipIf = none → f.sibling = none) ∧
          ∀ flag, d.skipIf = some flag →
            ∃ j g, T.FirstNamed flag j g ∧ j ≠ place ∧ f.sibling = some g) ∧
    ∀ (s : Schema) (f : ResolvedField (Record s)) (g : Field (Record s)),
      f ∈ s.recordType.resolve → f.sibling = some g → ∀ r : Record s, ∃ b, g.get r = .bool b := by
  refine ⟨T.map_resolve, fun place f h => ?_, fun s f g hf hg r =>
    s.exists_bool_of_sibling hf hg r⟩
  have hfault (e : MarshalError) := RecordType.fault?_eq_some_iff h (e := e)
  refine ⟨?_, hfault, fun e => RecordType.sibling_eq_none_of_fault h,
    fun d => RecordType.sibling_of_directives h⟩
  rw [Option.ne_none_iff_exists']
  simp only [hfault, RecordType.FaultAt]
  by_cases hnamed : T.NamedBefore f.name place
  · simp [hnamed]
  · simp [hnamed]

/-- A dial whose count is hidden by a switch; a second switch has the name of the first, and the
step would be hidden by a value of any type. -/
def dialSchema : Schema := [
  ⟨"Hide", .bool, ""⟩, ⟨"Any", .variant, ""⟩, ⟨"Count", .int32, "ignore=Any, ignore=Hide"⟩,
  ⟨"Step", .byte, "ignore=Any"⟩, ⟨"Hide", .byte, "omitEmpty"⟩]

/-- A field of the dial, resolved. -/
def dialField (place : Fin 5) : ResolvedField (Record dialSchema) :=
  dialSchema.recordType.resolve.get place

theorem resolve_exact_dial :
    let T := dialSchema.recordType
    T.FaultAt 3 (dialField 3).toField (.notBool "Any" .array) ∧
      T.NamedBefore "Hide" 4 ∧ (dialField 4).fault? ≠ none ∧
      (∃ j g, T.FirstNamed "Hide" j g ∧ j ≠ 2 ∧ (dialField 2).sibling = some g) ∧
      ∀ r : Record dialSchema, ∃ b, (dialSchema.field ⟨0, by decide⟩).get r = .bool b := by
  intro T
  have hplace (place : Fin 5) : T.resolve[place.1]? = some (dialField place) :=
    List.getElem?_eq_getElem _
  have hmem (place : Fin 5) : dialField place ∈ T.resolve := List.get_mem _ _
  obtain ⟨-, hfields, htyped⟩ := resolve_exact T
  have hfault := (hfields 3 _ (hplace 3)).2.1 (.directive "Step" (.notBool "Any" .array))
  obtain ⟨fault, hat, he⟩ := hfault.1 rfl
  obtain rfl : DirectiveFault.notBool "Any" .array = fault := by injection he
  have hnamed : T.NamedBefore "Hide" 4 := ⟨0, _, by decide, rfl, rfl⟩
  have hfirst := ((hfields 2 _ (hplace 2)).2.2.2 _ rfl).2.2 "Hide" rfl
  exact ⟨hat, hnamed, (hfields 4 _ (hplace 4)).1.2 (.inl hnamed), hfirst,
    htyped dialSchema (dialField 2) _ (hmem 2) rfl⟩

end BusDoc
