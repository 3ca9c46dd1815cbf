import BusDoc.Proofs.Corpus.Coverage

/-!
# Runs, passage by passage

What a run meets in a corpus is one list of passages: the units of each source or, in place of the
units of a source that cannot be split, its fault. A run is one loop over this list.

* `compile_eq_ok`, `compile_eq_error`: compiling sources is reading their passages.
* `selectedUnits_eq`: the selected units of a corpus are those of its passages.
* `Run.Reads`: what a run that has read passages holds of them: their reports, and the names that
  they declare, in order. `reads_foldlM` says that every run does.
* `diagnostics_of_compile`, `noInterfaces_mem_iff`: besides its reports, a result has nothing but
  the remark that it has no interface.
-/

namespace BusDoc

open Doc Result

/-! ## Reports -/

/-- What a report says of a fault: why a block was left out, or what is wrong with a source. A
remark on the run says nothing of a fault. -/
def Diagnostic.reason? : Diagnostic → Option String
  | skipped s => some s.reason
  | warning message => some message
  | info _ => none

/-- The diagnostics of the result that report a fault. -/
def Compiled.reports (c : Compiled) : List Diagnostic :=
  c.diagnostics.filter fun d => d.reason?.isSome

/-- The remark on a run without interfaces. -/
def Diagnostic.noInterfaces : Diagnostic := .info "no interfaces found in corpus"

/-! ## Passages -/

/-- What a run meets in a source. -/
inductive Passage
  /-- A unit of the source. -/
  | unit (source : Source) (u : DocUnit)
  /-- The fault of a source that cannot be split. -/
  | malformed (e : ParseError)

namespace Passage

/-- The unit that the passage gives a run to assemble, with its source. -/
def selected (o : CompileOptions) : Passage → List (Source × DocUnit)
  | unit s u => o.select s [u]
  | malformed _ => []

/-- The reports that reading the passage leaves. -/
def reports (o : CompileOptions) : Passage → List Diagnostic
  | unit _ u => if o.selects u.interface then u.unread.map .skipped else []
  | malformed e => [.warning e.message]

theorem selected_unit (o : CompileOptions) (s : Source) (u : DocUnit) :
    (unit s u).selected o = if o.selects u.interface then [(s, u)] else [] := by
  unfold selected CompileOptions.select
  by_cases h : o.selects u.interface <;> simp [h]

theorem reason?_of_mem_reports {o : CompileOptions} {p : Passage} {d : Diagnostic}
    (h : d ∈ p.reports o) : d.reason?.isSome := by
  cases p with
  | unit s u =>
    rw [reports] at h
    split at h
    next =>
      obtain ⟨r, -, rfl⟩ := List.mem_map.1 h
      rfl
    next => cases h
  | malformed e =>
    rw [List.mem_singleton.1 h]
    rfl

end Passage

/-- The passages of a source. -/
def Source.passages (s : Source) : List Passage :=
  match splitUnits s.name s.content with
  | .ok units => units.map (.unit s)
  | .error e => [.malformed e]

/-- The passages of a corpus, in order. -/
def passagesOf (sources : List Source) : List Passage := sources.flatMap Source.passages

theorem passagesOf_append (A B : List Source) :
    passagesOf (A ++ B) = passagesOf A ++ passagesOf B := List.flatMap_append

namespace Run

/-- One passage read. -/
def addPassage (o : CompileOptions) (run : Run) : Passage → Except Error Run
  | .unit s u => run.addUnit o s.name u
  | .malformed e =>
    match o.policy with
    | .abort => .error (.parse e)
    | .skipMalformed => .ok { run with diagnostics := run.diagnostics ++ [.warning e.message] }

theorem addSource_eq (o : CompileOptions) (run : Run) (s : Source) :
    run.addSource o s = s.passages.foldlM (addPassage o) run := by
  unfold addSource Source.passages
  cases splitUnits s.name s.content with
  | ok units =>
    rw [List.foldlM_map]
    rfl
  | error e =>
    show _ = addPassage o run (.malformed e) >>= pure
    rw [bind_pure]
    rfl

end Run

/-! ## Compiling -/

section Compile

variable {o : CompileOptions} {sources : List Source}

theorem foldlM_addSource (o : CompileOptions) (sources : List Source) (run : Run) :
    sources.foldlM (Run.addSource o) run =
      (passagesOf sources).foldlM (Run.addPassage o) run := by
  rw [passagesOf, foldlM_flatMap]
  congr 1
  funext run s
  exact run.addSource_eq o s

theorem compile_eq_ok {c : Compiled} :
    compile o sources = .ok c ↔
      ∃ run, (passagesOf sources).foldlM (Run.addPassage o) {} = .ok run ∧ run.finish = c := by
  unfold compile
  rw [foldlM_addSource, bind_eq_ok]
  simp only [pure_eq_ok]

theorem compile_eq_error {e : Error} :
    compile o sources = .error e ↔
      (passagesOf sources).foldlM (Run.addPassage o) {} = .error e := by
  unfold compile
  rw [foldlM_addSource, bind_eq_error]
  simp [pure, Except.pure]

theorem Source.selected_eq (o : CompileOptions) (s : Source) :
    s.selected o = s.passages.flatMap (Passage.selected o) := by
  unfold Source.selected Source.passages
  cases splitUnits s.name s.content with
  | error e => rfl
  | ok units =>
    show o.select s units = (units.map (Passage.unit s)).flatMap (Passage.selected o)
    induction units with
    | nil => rfl
    | cons u us ih =>
      rw [List.map_cons, List.flatMap_cons, ← ih]
      exact o.select_append s [u] us

theorem selectedUnits_eq (o : CompileOptions) (sources : List Source) :
    selectedUnits o sources = (passagesOf sources).flatMap (Passage.selected o) := by
  rw [selectedUnits, passagesOf, List.flatMap_assoc]
  congr 1
  funext s
  exact s.selected_eq o

end Compile

/-! ## What a run holds -/

/-- What a run that has read the passages holds of them. -/
structure Run.Reads (o : CompileOptions) (ps : List Passage) (run : Run) : Prop where
  reports : run.diagnostics = ps.flatMap (Passage.reports o)
  names : run.interfaces.map Interface.name =
    (ps.flatMap (Passage.selected o)).map fun su => su.2.interface
  declared : run.registry.origins.entries =
    (ps.flatMap (Passage.selected o)).map fun su => (su.2.interface, su.1.name)

theorem reads_addPassage {o : CompileOptions} {ps : List Passage} {p : Passage} {run run' : Run}
    (hr : run.Reads o ps) (h : run.addPassage o p = .ok run') : run'.Reads o (ps ++ [p]) := by
  suffices hstep : run'.diagnostics = run.diagnostics ++ p.reports o ∧
      run'.interfaces.map Interface.name =
        run.interfaces.map Interface.name ++ (p.selected o).map (fun su => su.2.interface) ∧
      run'.registry.origins.entries = run.registry.origins.entries ++
        (p.selected o).map fun su => (su.2.interface, su.1.name) by
    obtain ⟨hreports, hnames, hdeclared⟩ := hstep
    refine ⟨?_, ?_, ?_⟩ <;> rw [List.flatMap_append, List.flatMap_singleton]
    · rw [hreports, hr.reports]
    · rw [hnames, hr.names, List.map_append]
    · rw [hdeclared, hr.declared, List.map_append]
  cases p with
  | malformed e =>
    rw [Run.addPassage] at h
    split at h
    next => cases h
    next =>
      cases h
      simp [Passage.reports, Passage.selected]
  | unit s u =>
    rw [Passage.selected_unit, Passage.reports]
    rcases Run.addUnit_eq_ok.1 h with
      ⟨hsel, rfl⟩ | ⟨hsel, entries, skips, i, registry, hread, hi, rfl⟩
    · simp [hsel]
    · obtain ⟨-, rfl⟩ := DocUnit.read_eq_ok hread
      obtain ⟨-, hadd, hdeclared⟩ := Registry.assemble_eq_ok hi
      have hname : i.name = u.interface := (Interface.extends_of_addEntries hadd).header.1
      simp [hsel, hname, hdeclared, DocUnit.header]

theorem reads_foldlM {o : CompileOptions} {ps : List Passage} {run : Run}
    (h : ps.foldlM (Run.addPassage o) {} = .ok run) : run.Reads o ps :=
  foldlM_induction (P := fun ps run => Run.Reads o ps run) ⟨rfl, rfl, rfl⟩ reads_addPassage h

theorem Run.Reads.reason? {o : CompileOptions} {ps : List Passage} {run : Run}
    (hr : run.Reads o ps) {d : Diagnostic} (h : d ∈ run.diagnostics) : d.reason?.isSome := by
  rw [hr.reports] at h
  obtain ⟨p, -, hd⟩ := List.mem_flatMap.1 h
  exact Passage.reason?_of_mem_reports hd

/-- A run has declared the names of its interfaces, in their order. -/
theorem Run.Reads.keys {o : CompileOptions} {ps : List Passage} {run : Run}
    (hr : run.Reads o ps) :
    run.registry.origins.keys = run.interfaces.map Interface.name := by
  rw [OrderedMap.keys, hr.declared, hr.names, List.map_map]
  rfl

/-- A declared name comes from a selected unit of the source that declared it. -/
theorem Run.Reads.exists_of_get? {o : CompileOptions} {ps : List Passage} {run : Run}
    (hr : run.Reads o ps) {name origin : String}
    (h : run.registry.origins.get? name = some origin) :
    ∃ su ∈ ps.flatMap (Passage.selected o), su.2.interface = name ∧ su.1.name = origin := by
  have hmem := mem_keys_of_entryOf? h
  rw [hr.declared] at hmem
  obtain ⟨su, hsu, heq⟩ := List.mem_map.1 hmem
  obtain ⟨hname, horigin⟩ := Prod.mk.inj heq
  exact ⟨su, hsu, hname, horigin⟩

/-! ## The end of a run -/

theorem finish_diagnostics (run : Run) :
    run.finish.diagnostics =
      run.diagnostics ++ if run.interfaces = [] then [Diagnostic.noInterfaces] else [] := by
  unfold Run.finish
  cases run.interfaces <;> simp [Diagnostic.noInterfaces]

theorem finish_reports {o : CompileOptions} {ps : List Passage} {run : Run}
    (hr : run.Reads o ps) : run.finish.reports = run.diagnostics := by
  have hreports : run.diagnostics.filter (fun d => d.reason?.isSome) = run.diagnostics :=
    List.filter_eq_self.2 fun _ => hr.reason?
  rw [Compiled.reports, finish_diagnostics, List.filter_append, hreports]
  split <;> simp [Diagnostic.noInterfaces, Diagnostic.reason?]

/-- Besides its reports, a result has the remark that it has no interface, if so. -/
theorem diagnostics_of_compile {o : CompileOptions} {sources : List Source} {c : Compiled}
    (h : compile o sources = .ok c) :
    c.diagnostics =
      c.reports ++ if c.api.interfaces = [] then [Diagnostic.noInterfaces] else [] := by
  obtain ⟨run, hrun, rfl⟩ := compile_eq_ok.1 h
  rw [finish_reports (reads_foldlM hrun)]
  exact finish_diagnostics run

/-- A result has the remark exactly if it has no interface. -/
theorem noInterfaces_mem_iff {o : CompileOptions} {sources : List Source} {c : Compiled}
    (h : compile o sources = .ok c) :
    .noInterfaces ∈ c.diagnostics ↔ c.api.interfaces = [] := by
  have hnot : Diagnostic.noInterfaces ∉ c.reports := fun hmem =>
    absurd (List.mem_filter.1 hmem).2 (by decide)
  rw [diagnostics_of_compile h]
  split <;> simp [*]

end BusDoc
