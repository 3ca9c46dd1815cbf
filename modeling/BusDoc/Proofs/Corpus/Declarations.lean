import BusDoc.Proofs.Corpus.Assembly

/-!
# Runs of declarations

A registry is asked to assemble interfaces one after the other. It knows of the requests before only
which names were accepted, and from where; a request that is refused leaves no trace, so that its
name can be declared later.

* `mem_keys_of_extends`: the property names of an interface are those of its header and entries.
* `exists_addEntries_iff`, `addEntries_eq_error_iff`: entries are added unless a property is
  declared twice, and the first one that is, is named.
* `declare_eq`: a request changes the registry at its last step only.
* `knows_declare`, `knows_of`: what a registry knows after one more request, and so after a run.
* `registry_declarations`: the answers of a registry over whole runs.
-/

namespace BusDoc

open Result

/-! ## Properties declared twice -/

namespace Interface

variable {h i : Interface} {entries : List Entry}

/-- The header or one of the entries declares a property of the name. -/
def DeclaresProperty (h : Interface) (entries : List Entry) (name : String) : Prop :=
  name ∈ h.properties.keys ∨ ∃ p, Entry.property p ∈ entries ∧ p.name = name

/-- No property among the entries has a name that the header or an entry before it declares. -/
def IsConsistent (h : Interface) (entries : List Entry) : Prop :=
  ∀ before p after, entries = before ++ .property p :: after → ¬ h.DeclaresProperty before p.name

theorem mem_filterMap_property? {p : Property} :
    p ∈ entries.filterMap Entry.property? ↔ Entry.property p ∈ entries := by
  rw [List.mem_filterMap]
  constructor
  · rintro ⟨e, he, hp⟩
    cases e <;> cases hp
    exact he
  · exact fun hp => ⟨_, hp, rfl⟩

theorem mem_keys_of_extends (hi : h.Extends entries i) {name : String} :
    name ∈ i.properties.keys ↔ h.DeclaresProperty entries name := by
  rw [OrderedMap.keys, hi.properties, List.map_append, List.mem_append, List.map_map]
  refine or_congr_right ?_
  rw [List.mem_map]
  simp only [mem_filterMap_property?, Function.comp_apply]

theorem addEntry_eq_error_iff {e : Entry} {err : AssembleError} :
    i.addEntry e = .error err ↔
      ∃ p, e = .property p ∧ p.name ∈ i.properties.keys ∧
        err = .duplicateProperty i.name p.name := by
  cases e with
  | property p =>
    have hkeys : p.name ∈ i.properties.keys ↔ i.properties.contains p.name = true := by
      rw [OrderedMap.contains, Option.isSome_iff_ne_none, Ne, OrderedMap.get?,
        entryOf?_eq_none_iff, not_not]
      rfl
    rw [addEntry]
    split
    next hp => simp [hkeys, hp, eq_comm]
    next hp => simp [hkeys, hp]
  | method m => simp [addEntry]
  | signal s => simp [addEntry]

theorem addEntries_eq_error {err : AssembleError} (herr : h.addEntries entries = .error err) :
    ∃ before p after i, entries = before ++ .property p :: after ∧
      h.addEntries before = .ok i ∧ h.DeclaresProperty before p.name ∧
      err = .duplicateProperty h.name p.name := by
  obtain ⟨before, e, after, i, rfl, hi, hstep⟩ := foldlM_eq_error_iff.1 herr
  obtain ⟨p, rfl, hp, rfl⟩ := addEntry_eq_error_iff.1 hstep
  have hext := extends_of_addEntries hi
  exact ⟨before, p, after, i, rfl, hi, (mem_keys_of_extends hext).1 hp, by rw [hext.header.1]⟩

theorem exists_addEntries_iff :
    (∃ i, h.addEntries entries = .ok i) ↔ h.IsConsistent entries := by
  constructor
  · rintro ⟨i, hi⟩ before p after rfl hp
    rw [addEntries, List.foldlM_append] at hi
    obtain ⟨j, hj, hrest⟩ := bind_eq_ok.1 hi
    obtain ⟨k, hk, -⟩ := foldlM_cons_eq_ok.1 hrest
    have hmem := (mem_keys_of_extends (extends_of_addEntries hj)).2 hp
    rw [addEntry_eq_error_iff.2 ⟨p, rfl, hmem, rfl⟩] at hk
    cases hk
  · intro hconsistent
    cases hi : h.addEntries entries with
    | ok i => exact ⟨i, rfl⟩
    | error err =>
      obtain ⟨before, p, after, -, rfl, -, hp, -⟩ := addEntries_eq_error hi
      exact absurd hp (hconsistent before p after rfl)

/-- A property declared twice is named by the first entry that declares one again. -/
theorem addEntries_eq_error_iff {err : AssembleError} :
    h.addEntries entries = .error err ↔
      ∃ before p after, entries = before ++ .property p :: after ∧ h.IsConsistent before ∧
        h.DeclaresProperty before p.name ∧ err = .duplicateProperty h.name p.name := by
  constructor
  · intro herr
    obtain ⟨before, p, after, i, rfl, hi, hp, rfl⟩ := addEntries_eq_error herr
    exact ⟨before, p, after, rfl, exists_addEntries_iff.1 ⟨i, hi⟩, hp, rfl⟩
  · rintro ⟨before, p, after, rfl, hconsistent, hp, rfl⟩
    obtain ⟨i, hi⟩ := exists_addEntries_iff.2 hconsistent
    have hext := extends_of_addEntries hi
    refine foldlM_eq_error_iff.2 ⟨before, .property p, after, i, rfl, hi, ?_⟩
    exact addEntry_eq_error_iff.2
      ⟨p, rfl, (mem_keys_of_extends hext).2 hp, by rw [hext.header.1]⟩

end Interface

/-! ## Requests -/

namespace Registry

variable {r : Registry} {d : Declaration}

/-- The registry changes at the last step only, so a request that fails changes nothing. -/
theorem declare_eq (r : Registry) (d : Declaration) :
    r.declare d = match r.assemble d.header d.entries d.origin with
      | .ok (i, r) => (.ok i, r)
      | .error e => (.error e, r) := by
  have hget : StateT.run (get : ExceptT AssembleError (StateM Registry) Registry).run r =
      pure (.ok r, r) := rfl
  cases hfirst : r.origins.get? d.header.name with
  | some first =>
    simp only [declare, request, assemble, ExceptT.run_bind, StateT.run_bind, hget, pure_bind,
      hfirst]
    rfl
  | none =>
    cases hadd : d.header.addEntries d.entries with
    | ok i =>
      simp only [declare, request, assemble, ExceptT.run_bind, StateT.run_bind, hget, pure_bind,
        hfirst, hadd]
      rfl
    | error e =>
      simp only [declare, request, assemble, ExceptT.run_bind, StateT.run_bind, hget, pure_bind,
        hfirst, hadd]
      rfl

theorem fst_declare_of_some {first : String} (h : r.origins.get? d.header.name = some first) :
    (r.declare d).1 = .error (.duplicateInterface d.header.name first d.origin) := by
  rw [declare_eq, assemble_of_declared h]

theorem fst_declare_of_none (h : r.origins.get? d.header.name = none) :
    (r.declare d).1 = d.header.addEntries d.entries := by
  rw [declare_eq, assemble, h]
  cases d.header.addEntries d.entries <;> rfl

theorem fst_declare_eq_duplicateInterface_iff {name first second : String} :
    (r.declare d).1 = .error (.duplicateInterface name first second) ↔
      name = d.header.name ∧ second = d.origin ∧ r.origins.get? name = some first := by
  cases h : r.origins.get? d.header.name with
  | some found =>
    rw [fst_declare_of_some h]
    constructor
    · intro he
      cases he
      exact ⟨rfl, rfl, h⟩
    · rintro ⟨rfl, rfl, hfirst⟩
      rw [Option.some.inj (h.symm.trans hfirst)]
  | none =>
    rw [fst_declare_of_none h]
    constructor
    · intro he
      obtain ⟨_, _, _, _, _, _, _, herr⟩ := Interface.addEntries_eq_error he
      cases herr
    · rintro ⟨rfl, -, hfirst⟩
      rw [h] at hfirst
      cases hfirst

theorem fst_declare_eq_duplicateProperty_iff {interface name : String} :
    (r.declare d).1 = .error (.duplicateProperty interface name) ↔
      r.origins.get? d.header.name = none ∧
        d.header.addEntries d.entries = .error (.duplicateProperty interface name) := by
  cases h : r.origins.get? d.header.name with
  | some found => simp [fst_declare_of_some h]
  | none => simp [fst_declare_of_none h]

theorem fst_declare_eq_ok_iff {i : Interface} :
    (r.declare d).1 = .ok i ↔
      r.origins.get? d.header.name = none ∧ d.header.addEntries d.entries = .ok i := by
  cases h : r.origins.get? d.header.name with
  | some found => simp [fst_declare_of_some h]
  | none => simp [fst_declare_of_none h]

theorem snd_declare_of_error {e : AssembleError} (h : (r.declare d).1 = .error e) :
    (r.declare d).2 = r := by
  rw [declare_eq] at h ⊢
  split at h
  next => cases h
  next => rfl

end Registry

/-! ## Runs -/

/-- A registry that was new at the start, with the requests made since, oldest first, and their
answers. -/
structure RegistryRun where
  registry : Registry := {}
  history : List (Declaration × Except AssembleError Interface) := []

namespace RegistryRun

/-- The run with one more request. -/
def declare (r : RegistryRun) (d : Declaration) : RegistryRun :=
  ⟨(r.registry.declare d).2, r.history ++ [(d, (r.registry.declare d).1)]⟩

/-- The requests made of a new registry, in order. -/
def of (ds : List Declaration) : RegistryRun := ds.foldl declare {}

/-- The name and the source of a request, if it was accepted. -/
def accepted? : Declaration × Except AssembleError Interface → Option (String × String)
  | (d, .ok _) => some (d.header.name, d.origin)
  | (_, .error _) => none

/-- The registry knows the accepted names, each with the source that declared it. -/
def Knows (r : RegistryRun) : Prop :=
  r.registry.origins.entries = r.history.filterMap accepted?

variable {r : RegistryRun} {d : Declaration} {name origin : String}

theorem mem_accepted :
    (name, origin) ∈ r.history.filterMap accepted? ↔
      ∃ d i, (d, .ok i) ∈ r.history ∧ d.header.name = name ∧ d.origin = origin := by
  rw [List.mem_filterMap]
  constructor
  · rintro ⟨⟨d, _ | i⟩, hd, hname⟩
    · cases hname
    · cases hname
      exact ⟨d, i, hd, rfl, rfl⟩
  · rintro ⟨d, i, hd, rfl, rfl⟩
    exact ⟨(d, .ok i), hd, rfl⟩

theorem Knows.get?_iff (hr : r.Knows) :
    r.registry.origins.get? name = some origin ↔
      ∃ d i, (d, .ok i) ∈ r.history ∧ d.header.name = name ∧ d.origin = origin := by
  rw [OrderedMap.get?_eq_some_iff, hr, mem_accepted]

theorem Knows.get?_eq_none_iff (hr : r.Knows) :
    r.registry.origins.get? name = none ↔
      ∀ d i, (d, .ok i) ∈ r.history → d.header.name ≠ name := by
  simp only [Option.eq_none_iff_forall_ne_some, Ne, hr.get?_iff]
  constructor
  · exact fun hnone d i hd hname => hnone d.origin ⟨d, i, hd, hname, rfl⟩
  · rintro hnew first ⟨d, i, hd, hname, -⟩
    exact hnew d i hd hname

theorem Knows.contains_iff (hr : r.Knows) :
    r.registry.contains name = true ↔ ∃ d i, (d, .ok i) ∈ r.history ∧ d.header.name = name := by
  rw [Registry.contains, OrderedMap.contains, Option.isSome_iff_ne_none, Ne, hr.get?_eq_none_iff]
  simp

theorem Knows.length (hr : r.Knows) :
    r.registry.length = r.history.countP fun x => x.2.isOk := by
  rw [Registry.length, OrderedMap.length, hr, List.length_filterMap_eq_countP]
  refine List.countP_congr fun x _ => ?_
  obtain ⟨d, _ | i⟩ := x <;> simp [accepted?, Except.isOk, Except.toBool]

theorem knows_declare (hr : r.Knows) (d : Declaration) : (r.declare d).Knows := by
  unfold Knows declare
  rw [Registry.declare_eq, List.filterMap_append, ← hr]
  cases h : r.registry.assemble d.header d.entries d.origin with
  | error e => simp [accepted?]
  | ok ir =>
    obtain ⟨i, registry⟩ := ir
    simp [accepted?, (Registry.assemble_eq_ok h).2.2]

theorem map_fst_history (ds : List Declaration) : (of ds).history.map Prod.fst = ds := by
  suffices ∀ r : RegistryRun, (ds.foldl declare r).history.map Prod.fst =
      r.history.map Prod.fst ++ ds from this {}
  induction ds with
  | nil => simp
  | cons d ds ih => intro r; simp [ih, declare]

/-- Every run has a registry that knows what was accepted. -/
theorem knows_of (ds : List Declaration) : (of ds).Knows := by
  unfold of
  have hstart : Knows {} := rfl
  generalize ({} : RegistryRun) = r at hstart
  induction ds generalizing r with
  | nil => exact hstart
  | cons d ds ih => exact ih _ (knows_declare hstart d)

end RegistryRun

/-- **Runs of declarations.** At every moment of every run, the registry contains the names that
were accepted so far, and has one entry for each accepted request. The next request is refused for
its name exactly if a request of that name was accepted, and then both sources are named. If there
was none, it is refused exactly if a property among its entries has a name that the header or an
entry before it declares, and then the first of them is named. A refused request changes nothing;
an accepted one gives the header with the entries behind its members. -/
theorem registry_declarations (ds : List Declaration) (d : Declaration) :
    let r := RegistryRun.of ds
    let answer := (r.registry.declare d).1
    r.history.map Prod.fst = ds ∧
      (∀ name, r.registry.contains name = true ↔
        ∃ c i, (c, .ok i) ∈ r.history ∧ c.header.name = name) ∧
      r.registry.length = r.history.countP (fun x => x.2.isOk) ∧
      (∀ name first second, answer = .error (.duplicateInterface name first second) ↔
        name = d.header.name ∧ second = d.origin ∧
          ∃ c i, (c, .ok i) ∈ r.history ∧ c.header.name = name ∧ c.origin = first) ∧
      (∀ interface name, answer = .error (.duplicateProperty interface name) ↔
        interface = d.header.name ∧
          (∀ c i, (c, .ok i) ∈ r.history → c.header.name ≠ d.header.name) ∧
          ∃ before p after, d.entries = before ++ .property p :: after ∧ p.name = name ∧
            d.header.DeclaresProperty before name ∧ d.header.IsConsistent before) ∧
      ((∃ i, answer = .ok i) ↔
        (∀ c i, (c, .ok i) ∈ r.history → c.header.name ≠ d.header.name) ∧
          d.header.IsConsistent d.entries) ∧
      (∀ i, answer = .ok i → d.header.Extends d.entries i ∧ i.properties.keys.Nodup) ∧
      ∀ e, answer = .error e → (r.declare d).registry = r.registry := by
  intro r answer
  have hknows : r.Knows := RegistryRun.knows_of ds
  refine ⟨RegistryRun.map_fst_history ds, fun name => hknows.contains_iff, hknows.length,
    fun name first second => ?_, fun interface name => ?_, ?_, fun i hi => ?_,
    fun e he => Registry.snd_declare_of_error he⟩
  · rw [← hknows.get?_iff]
    exact Registry.fst_declare_eq_duplicateInterface_iff
  · rw [← hknows.get?_eq_none_iff]
    refine Registry.fst_declare_eq_duplicateProperty_iff.trans ?_
    rw [Interface.addEntries_eq_error_iff]
    constructor
    · rintro ⟨hnew, before, p, after, hentries, hconsistent, hp, herr⟩
      cases herr
      exact ⟨rfl, hnew, before, p, after, hentries, rfl, hp, hconsistent⟩
    · rintro ⟨rfl, hnew, before, p, after, hentries, rfl, hp, hconsistent⟩
      exact ⟨hnew, before, p, after, hentries, hconsistent, hp, rfl⟩
  · rw [← hknows.get?_eq_none_iff, ← Interface.exists_addEntries_iff]
    simp only [answer, Registry.fst_declare_eq_ok_iff, exists_and_left]
  · have hadd := (Registry.fst_declare_eq_ok_iff.1 hi).2
    exact ⟨Interface.extends_of_addEntries hadd, i.properties.keys_nodup⟩

/-- A name that was refused for its entries is accepted later, and refused after that. -/
example :
    let door (names : List String) (origin : String) : Declaration :=
      ⟨{ name := "a.Door" }, names.map fun n => .property { name := n }, origin⟩
    let run := RegistryRun.of
      [door ["Open", "Open"] "x", door ["Open", "Locked"] "y", door [] "z"]
    run.history.map (fun x => x.2.map fun i => i.properties.keys) =
      [.error (.duplicateProperty "a.Door" "Open"), .ok ["Open", "Locked"],
        .error (.duplicateInterface "a.Door" "y" "z")] := by
  decide +kernel

end BusDoc
