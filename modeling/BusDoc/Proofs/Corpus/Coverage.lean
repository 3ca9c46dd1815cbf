import BusDoc.Proofs.Corpus.Reading
import Mathlib.Data.List.Forall2
import Mathlib.Data.List.Nodup

/-!
# No block is lost

A run under the skipping policy reads the units of a corpus that the filters select, in order.

* `Tracks`: what a run keeps: its interfaces describe the units read so far one by one, its
  reports on blocks are theirs, and the names declared are theirs.
* `tracks_addUnit`, `tracks_addSource`: one unit and one source keep it.
* `compile_documents`: every block of a selected unit is a member of its interface or reported
  under its name, and no two interfaces have one name.
-/

namespace BusDoc

open Doc Result

/-- The report on a block, if the diagnostic is one. -/
def Diagnostic.skipped? : Diagnostic → Option Skipped
  | skipped s => some s
  | _ => none

/-- The units that the filters select, with their source. -/
def CompileOptions.select (o : CompileOptions) (s : Source) (units : List DocUnit) :
    List (Source × DocUnit) :=
  (units.filter fun u => o.selects u.interface).map fun u => (s, u)

/-- The selected units of a source; a malformed source has none. -/
def Source.selected (o : CompileOptions) (s : Source) : List (Source × DocUnit) :=
  match splitUnits s.name s.content with
  | .ok units => o.select s units
  | .error _ => []

/-- The selected units of a corpus with their sources, in order. -/
def selectedUnits (o : CompileOptions) (sources : List Source) : List (Source × DocUnit) :=
  sources.flatMap (Source.selected o)

/-- The reports on blocks that carry the name of an interface. -/
def skippedOf (name : String) (diagnostics : List Diagnostic) : List Skipped :=
  (diagnostics.filterMap Diagnostic.skipped?).filter fun s => s.interface = name

/-- The interface has the header of the unit, and as members what its blocks document. -/
structure Describes (u : DocUnit) (i : Interface) : Prop where
  header : i.name = u.interface ∧ i.title = u.title ∧ i.service = u.service ∧
    i.objectPath = u.objectPath ∧ i.docs = u.docs
  properties : i.properties.entries = (u.blocks.filterMap Block.property?).map fun p => (p.name, p)
  methods : i.methods = u.blocks.filterMap Block.method?
  signals : i.signals = u.blocks.filterMap Block.signal?

/-- The interface describes a unit of the source, and what is left of its blocks is reported. -/
structure Documents (diagnostics : List Diagnostic) (s : Source) (u : DocUnit) (i : Interface) :
    Prop extends Describes u i where
  skipped : skippedOf i.name diagnostics =
    u.blocks.filterMap fun b => b.unread? s.name u.interface
  count : i.properties.length + i.methods.length + i.signals.length +
    (skippedOf i.name diagnostics).length = u.blocks.length

theorem CompileOptions.select_nil (o : CompileOptions) (s : Source) : o.select s [] = [] := rfl

theorem CompileOptions.select_append (o : CompileOptions) (s : Source) (us vs : List DocUnit) :
    o.select s (us ++ vs) = o.select s us ++ o.select s vs := by
  simp [select]

/-! ## One unit and one source -/

/-- A unit is filtered out, or it is read and assembled. -/
theorem Run.addUnit_eq_ok {o : CompileOptions} {origin : String} {run run' : Run} {u : DocUnit} :
    run.addUnit o origin u = .ok run' ↔
      (o.selects u.interface = false ∧ run' = run) ∨
      (o.selects u.interface = true ∧ ∃ entries skips i registry,
        u.read o.policy = .ok (entries, skips) ∧
        run.registry.assemble u.header entries origin = .ok (i, registry) ∧
        run' = ⟨registry, run.interfaces ++ [i], run.diagnostics ++ skips.map .skipped⟩) := by
  unfold Run.addUnit
  cases hsel : o.selects u.interface with
  | false =>
    refine ⟨fun h => .inl ⟨rfl, by cases h; rfl⟩, ?_⟩
    rintro (⟨-, rfl⟩ | ⟨h, -⟩)
    · rfl
    · cases h
  | true =>
    simp only [Bool.not_true, Bool.false_eq_true, if_false, false_and, false_or, true_and,
      reduceCtorEq, bind_eq_ok, mapError_eq_ok, Prod.exists, pure_eq_ok]
    constructor
    · rintro ⟨entries, skips, hread, i, registry, hi, rfl⟩
      exact ⟨entries, skips, i, registry, hread, hi, rfl⟩
    · rintro ⟨entries, skips, i, registry, hread, hi, rfl⟩
      exact ⟨entries, skips, hread, i, registry, hi, rfl⟩

/-- What a run has made of the units read so far. -/
structure Tracks (read : List (Source × DocUnit)) (run : Run) : Prop where
  interfaces : List.Forall₂ (fun su i => Describes su.2 i) read run.interfaces
  reports : run.diagnostics.filterMap Diagnostic.skipped? = read.flatMap fun su => su.2.unread
  declared : run.registry.origins.entries = read.map fun su => (su.2.interface, su.1.name)

theorem tracks_start : Tracks [] {} := ⟨.nil, rfl, rfl⟩

theorem describes_of_addEntries {u : DocUnit} {i : Interface}
    (h : u.header.addEntries (entriesOf u.blocks) = .ok i) : Describes u i := by
  have hext := Interface.extends_of_addEntries h
  obtain ⟨hproperties, hmethods, hsignals⟩ := filterMap_entriesOf u.blocks
  refine ⟨hext.header, ?_, ?_, ?_⟩
  · rw [hext.properties, hproperties]
    rfl
  · rw [hext.methods, hmethods]
    rfl
  · rw [hext.signals, hsignals]
    rfl

theorem tracks_addUnit {filters : List String} {read : List (Source × DocUnit)} {run run' : Run}
    {s : Source} {u : DocUnit} (ht : Tracks read run)
    (h : Run.addUnit ⟨.skipMalformed, filters⟩ s.name run u = .ok run') :
    Tracks (read ++ CompileOptions.select ⟨.skipMalformed, filters⟩ s [u]) run' := by
  unfold CompileOptions.select
  obtain ⟨hsel, rfl⟩ | ⟨hsel, entries, skips, i, registry, hread, hi, rfl⟩ :=
    Run.addUnit_eq_ok.1 h
  · simpa [hsel] using ht
  · rw [u.read_skip] at hread
    cases hread
    obtain ⟨-, hadd, hdeclared⟩ := Registry.assemble_eq_ok hi
    rw [List.filter_singleton, hsel]
    refine ⟨?_, ?_, ?_⟩
    · exact List.rel_append ht.interfaces (.cons (describes_of_addEntries hadd) .nil)
    · simp [List.filterMap_append, ht.reports, List.filterMap_map, Function.comp_def,
        Diagnostic.skipped?]
    · simp [hdeclared, ht.declared, DocUnit.header]

theorem tracks_addSource {filters : List String} {read : List (Source × DocUnit)}
    {run run' : Run} {s : Source} (ht : Tracks read run)
    (h : Run.addSource ⟨.skipMalformed, filters⟩ run s = .ok run') :
    Tracks (read ++ s.selected ⟨.skipMalformed, filters⟩) run' := by
  unfold Run.addSource at h
  unfold Source.selected
  cases hsplit : splitUnits s.name s.content with
  | error e =>
    rw [hsplit] at h
    cases h
    rw [List.append_nil]
    refine ⟨ht.interfaces, ?_, ht.declared⟩
    simp [List.filterMap_append, ht.reports, Diagnostic.skipped?]
  | ok units =>
    rw [hsplit] at h
    -- the units read so far are a prefix of those of the source
    refine foldlM_induction
      (P := fun us r => Tracks (read ++ CompileOptions.select ⟨.skipMalformed, filters⟩ s us) r)
      ?_ (fun {done u r r'} htr hu => ?_) h
    · rwa [CompileOptions.select_nil, List.append_nil]
    · rw [CompileOptions.select_append, ← List.append_assoc]
      exact tracks_addUnit htr hu

theorem tracks_foldlM {filters : List String} {sources : List Source} {run : Run}
    (h : sources.foldlM (Run.addSource ⟨.skipMalformed, filters⟩) {} = .ok run) :
    Tracks (selectedUnits ⟨.skipMalformed, filters⟩ sources) run := by
  refine foldlM_induction (P := fun ss r => Tracks (selectedUnits ⟨.skipMalformed, filters⟩ ss) r)
    tracks_start (fun {done s r r'} htr hs => ?_) h
  have hstep := tracks_addSource htr hs
  rwa [selectedUnits, List.flatMap_append, List.flatMap_singleton]

/-! ## The result -/

theorem Tracks.names {read : List (Source × DocUnit)} {run : Run} (ht : Tracks read run) :
    run.interfaces.map Interface.name = read.map fun su => su.2.interface := by
  have h := ht.interfaces
  clear ht
  generalize run.interfaces = is at h
  induction h with
  | nil => rfl
  | cons hd _ ih => rw [List.map_cons, List.map_cons, hd.header.1, ih]

/-- The registry keeps the names of the units apart. -/
theorem Tracks.nodup {read : List (Source × DocUnit)} {run : Run} (ht : Tracks read run) :
    (read.map fun su => su.2.interface).Nodup := by
  have h := run.registry.origins.keys_nodup
  rwa [ht.declared, List.map_map] at h

theorem interface_of_mem_unread {u : DocUnit} {r : Skipped} (h : r ∈ u.unread) :
    r.interface = u.interface := by
  obtain ⟨b, -, hb⟩ := List.mem_filterMap.1 h
  unfold Block.unread? at hb
  split at hb
  next => cases hb
  next => cases hb; rfl

/-- Of the reports on several units with different names, those under the name of one are its
own. -/
theorem filter_unread {read : List (Source × DocUnit)} {s : Source} {u : DocUnit}
    (hn : (read.map fun su => su.2.interface).Nodup) (hu : (s, u) ∈ read) :
    (read.flatMap fun su => su.2.unread).filter (fun r => r.interface = u.interface) =
      u.unread := by
  have hown (v : DocUnit) (hv : v.interface = u.interface) :
      v.unread.filter (fun r => r.interface = u.interface) = v.unread := by
    rw [List.filter_eq_self]
    intro r hr
    simp [interface_of_mem_unread hr, hv]
  have hother (ws : List (Source × DocUnit)) (hw : ∀ w ∈ ws, w.2.interface ≠ u.interface) :
      (ws.flatMap fun su => su.2.unread).filter (fun r => r.interface = u.interface) = [] := by
    rw [List.filter_eq_nil_iff]
    intro r hr
    obtain ⟨w, hw', hr⟩ := List.mem_flatMap.1 hr
    simpa [interface_of_mem_unread hr] using hw w hw'
  obtain ⟨before, after, rfl⟩ := List.append_of_mem hu
  rw [List.map_append, List.map_cons, List.nodup_append] at hn
  obtain ⟨-, hafter, hbefore⟩ := hn
  rw [List.nodup_cons] at hafter
  rw [List.flatMap_append, List.flatMap_cons, List.filter_append, List.filter_append,
    hown u rfl, hother before, hother after, List.append_nil, List.nil_append]
  · intro w hw e
    exact hafter.1 (e ▸ List.mem_map_of_mem hw)
  · intro w hw e
    exact hbefore _ (List.mem_map_of_mem hw) _ List.mem_cons_self e

theorem Tracks.documents {read : List (Source × DocUnit)} {run : Run} (ht : Tracks read run)
    (hsource : ∀ su ∈ read, su.2.source = su.1.name) :
    List.Forall₂ (fun su i => Documents run.diagnostics su.1 su.2 i) read run.interfaces := by
  have hmem : List.Forall₂ (fun su i => su ∈ read ∧ Describes su.2 i) read run.interfaces :=
    (List.forall₂_and_left read run.interfaces).2 ⟨fun _ h => h, ht.interfaces⟩
  refine hmem.imp fun su i ⟨hsu, hd⟩ => ?_
  have hskipped : skippedOf i.name run.diagnostics =
      su.2.blocks.filterMap fun b => b.unread? su.1.name su.2.interface := by
    rw [skippedOf, ht.reports, hd.header.1, filter_unread ht.nodup hsu, DocUnit.unread,
      hsource su hsu]
  refine ⟨hd, hskipped, ?_⟩
  rw [hskipped, OrderedMap.length, hd.properties, hd.methods, hd.signals, List.length_map]
  exact length_read su.1.name su.2.interface su.2.blocks

theorem source_of_mem_selectedUnits {o : CompileOptions} {sources : List Source}
    {su : Source × DocUnit} (h : su ∈ selectedUnits o sources) : su.2.source = su.1.name := by
  obtain ⟨s, -, hsu⟩ := List.mem_flatMap.1 h
  unfold Source.selected at hsu
  split at hsu
  next units hsplit =>
    obtain ⟨u, hu, rfl⟩ := List.mem_map.1 hsu
    exact source_of_mem_splitUnits hsplit (List.mem_of_mem_filter hu)
  next => cases hsu

/-- The remark on a run without interfaces is no report on a block. -/
theorem reports_finish (run : Run) :
    run.finish.diagnostics.filterMap Diagnostic.skipped? =
      run.diagnostics.filterMap Diagnostic.skipped? := by
  unfold Run.finish
  split <;> simp [Diagnostic.skipped?]

/-- **No block is lost.** The interfaces of a compiled corpus document its selected units one by
one, in order, and their names are pairwise distinct. -/
theorem compile_documents {filters : List String} {sources : List Source} {c : Compiled}
    (h : compile ⟨.skipMalformed, filters⟩ sources = .ok c) :
    List.Forall₂ (fun su i => Documents c.diagnostics su.1 su.2 i)
        (selectedUnits ⟨.skipMalformed, filters⟩ sources) c.api.interfaces ∧
      (c.api.interfaces.map Interface.name).Nodup := by
  obtain ⟨run, hrun, h⟩ := bind_eq_ok.1 h
  cases h
  have ht := tracks_foldlM hrun
  have hdocs := ht.documents fun su => source_of_mem_selectedUnits
  constructor
  · refine hdocs.imp fun su i hd => ⟨hd.toDescribes, ?_, ?_⟩
    · have := hd.skipped
      rwa [skippedOf, ← reports_finish] at this
    · have := hd.count
      rwa [skippedOf, ← reports_finish] at this
  · show (run.interfaces.map Interface.name).Nodup
    rw [ht.names]
    exact ht.nodup

/-- A source with a property, a block that cannot be read, and a second interface. -/
def mixedSource : Source where
  name := "a.txt"
  content := "A hierarchy\n=\nInterface\ta.A\nProperties\tbyte P\n\n\t\t?\nB hierarchy\n=\nInterface\tb.B\n"

theorem compile_documents_mixedSource :
    ∃ c, compile ⟨.skipMalformed, ["A"]⟩ [mixedSource] = .ok c ∧
      c.api.names = ["a.A"] ∧ c.skippedCount = 1 ∧
      List.Forall₂ (fun su i => Documents c.diagnostics su.1 su.2 i)
        (selectedUnits ⟨.skipMalformed, ["A"]⟩ [mixedSource]) c.api.interfaces := by
  have h : (compile ⟨.skipMalformed, ["A"]⟩ [mixedSource]).toOption.map
      (fun c => (c.api.names, c.skippedCount)) = some (["a.A"], 1) := by decide +kernel
  cases hc : compile ⟨.skipMalformed, ["A"]⟩ [mixedSource] with
  | error e => rw [hc] at h; cases h
  | ok c =>
    rw [hc] at h
    obtain ⟨hnames, hskipped⟩ := Prod.mk.inj (Option.some.inj h)
    exact ⟨c, rfl, hnames, hskipped, (compile_documents hc).1⟩

end BusDoc
