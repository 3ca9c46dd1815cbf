import BusDoc.Proofs.Record.Resolution
import BusDoc.Proofs.Record.Update

/-!
# Two ways to write a record out

The map of a record leaves out what did not resolve, and the strict map fails there. Otherwise both
have the same entries: those of the fields that are shown, in the order of their declaration.

* `value?_eq_some_iff`: a field has an entry exactly if it is shown, and the entry is its value.
* `entries_eq`: the entries of a list of fields are those of the fields that are shown.
* `toMap?_eq_ok_iff`, `toMap?_eq_error_iff`: when the strict map is the map, and when it fails.
* `flatten_agree`: both maps of a record.
-/

namespace BusDoc

variable {R : Type}

theorem Variant.asBool?_eq_some_iff {v : Variant} {b : Bool} :
    v.asBool? = some b ↔ v = .bool b := by
  cases v <;> simp [asBool?]

namespace ResolvedField

/-- The field is written out: it resolved, it is not left out always, the field that it depends on
is not true, and it is not omitted for its zero. -/
def IsShown (f : ResolvedField R) (r : R) : Prop :=
  ∃ d, f.directives = .ok d ∧ d.skip = false ∧ (∀ g, f.sibling = some g → g.get r ≠ .bool true) ∧
    ¬ (d.omitEmpty = true ∧ (f.get r).isZero = true)

theorem value?_eq_some_iff {f : ResolvedField R} {r : R} {v : Variant} :
    f.value? r = some v ↔ f.IsShown r ∧ v = f.get r := by
  cases hd : f.directives with
  | error e => simp [value?_of_fault hd, IsShown, hd]
  | ok d =>
    have hset : ((f.sibling.bind fun g => (g.get r).asBool?) = some true) ↔
        ∃ g, f.sibling = some g ∧ g.get r = .bool true := by
      simp only [Option.bind_eq_some_iff, Variant.asBool?_eq_some_iff]
    have hshown : f.IsShown r ↔
        d.skip = false ∧ ¬ (∃ g, f.sibling = some g ∧ g.get r = .bool true) ∧
          ¬ (d.omitEmpty = true ∧ (f.get r).isZero = true) := by
      simp [IsShown, hd]
    rw [value?_of_directives hd, hshown, ← hset, ← Bool.and_eq_true]
    clear hset hshown
    split_ifs with hskip hflag hzero
    · simp [hskip]
    · simp only [hflag, not_true, false_and, and_false]
    · simp only [hzero, not_true, false_and, and_false]
    · rw [Option.some.injEq, eq_comm]
      exact (and_iff_right ⟨Bool.eq_false_iff.2 hskip, hflag, hzero⟩).symm

theorem isShown_iff {f : ResolvedField R} {r : R} : f.IsShown r ↔ (f.value? r).isSome = true := by
  simp [Option.isSome_iff_exists, value?_eq_some_iff]

instance (f : ResolvedField R) (r : R) : Decidable (f.IsShown r) :=
  decidable_of_iff _ isShown_iff.symm

theorem pair?_eq (f : ResolvedField R) (r : R) :
    f.pair? r = if f.IsShown r then some (f.name, f.get r) else none := by
  unfold pair?
  split
  next h => rw [value?_eq_some_iff.2 ⟨h, rfl⟩, Option.map_some]
  next h => rwa [Option.map_eq_none_iff, ← Option.not_isSome_iff_eq_none, ← isShown_iff]

theorem entries_eq (fs : List (ResolvedField R)) (r : R) :
    entries fs r = (fs.filter (·.IsShown r)).map fun f => (f.name, f.get r) := by
  induction fs with
  | nil => rfl
  | cons f fs ih =>
    rw [entries, List.filterMap_cons, pair?_eq]
    by_cases h : f.IsShown r
    · rw [if_pos h, List.filter_cons_of_pos (by simpa using h), List.map_cons, ← ih]
      rfl
    · rw [if_neg h, List.filter_cons_of_neg (by simpa using h), ← ih]
      rfl

end ResolvedField

namespace RecordType

variable {T : RecordType R} {r : R}

theorem toMap?_eq_ok_iff {m : PropertyMap} :
    T.toMap? r = .ok m ↔ T.faults = [] ∧ m = T.toMap r := by
  rw [toMap?_eq]
  cases T.faults <;> simp [eq_comm]

theorem toMap?_eq_error_iff {e : MarshalError} :
    T.toMap? r = .error e ↔ T.faults.head? = some e := by
  rw [toMap?_eq]
  cases T.faults <;> simp

end RecordType

/-- **The two maps of a record.** The names with an entry come once. The fields come resolved in the
order of their declaration, and the entries are the values of those that are shown, under their
names and in this order. The strict map exists exactly if every field resolved, and is then the same
map; otherwise it fails with the first fault of the fields. -/
theorem flatten_agree (T : RecordType R) (r : R) :
    T.resolve.map ResolvedField.toField = T.fields ∧
    (T.toMap r).keys.Nodup ∧
    (T.toMap r).entries = (T.resolve.filter (·.IsShown r)).map (fun f => (f.name, f.get r)) ∧
    (∀ m, T.toMap? r = .ok m ↔ T.faults = [] ∧ m = T.toMap r) ∧
    ∀ e, T.toMap? r = .error e ↔ T.faults.head? = some e := by
  refine ⟨T.map_resolve, (T.toMap r).keys_nodup, ?_, fun m => RecordType.toMap?_eq_ok_iff,
    fun e => RecordType.toMap?_eq_error_iff⟩
  rw [RecordType.entries_toMap, ResolvedField.entries_eq]

/-- A lamp: its level is left out at zero, its color depends on a field that is not there, and its
hue on itself. -/
def lampSchema : Schema := [
  ⟨"Name", .string, ""⟩, ⟨"Level", .byte, "omitEmpty"⟩, ⟨"Color", .string, "ignore=Lit"⟩,
  ⟨"Hue", .byte, "ignore=Hue"⟩]

/-- A red lamp at level zero. -/
def deskLamp : Record lampSchema :=
  ((Record.zero lampSchema).put ⟨0, by decide⟩ "desk").put ⟨2, by decide⟩ "red"

theorem flatten_agree_deskLamp :
    (lampSchema.recordType.toMap deskLamp).entries = [("Name", .str "desk")] ∧
      lampSchema.recordType.resolve.map (fun f => f.name) = ["Name", "Level", "Color", "Hue"] ∧
      (∀ m, lampSchema.recordType.toMap? deskLamp ≠ .ok m) ∧
      lampSchema.recordType.toMap? deskLamp = .error (.directive "Color" (.noField "Lit")) := by
  obtain ⟨hfields, -, hentries, hok, herror⟩ := flatten_agree lampSchema.recordType deskLamp
  have hnames := congrArg (List.map Field.name) hfields
  rw [List.map_map] at hnames
  exact ⟨hentries.trans rfl, hnames.trans rfl, fun m hm => absurd ((hok m).1 hm).1 nofun,
    (herror _).2 rfl⟩

end BusDoc
