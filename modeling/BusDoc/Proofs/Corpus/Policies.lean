import BusDoc.Proofs.Corpus.Passages

/-!
# The two policies

A run under either policy does the same until it meets something malformed. There the skipping
policy leaves a report and goes on; the other ends the run with the fault that the report tells of.

* `addPassage_abort_of_quiet`, `addPassage_abort_of_report`: one passage without anything to
  report, and one with.
* `foldlM_abort_of_quiet`, `foldlM_abort_of_report`, `exists_foldlM_abort_error`: a whole run,
  against the run under the skipping policy: one that leaves no report, one that leaves some, and
  one that fails.
* `compile_policies`: the results of a corpus under the two policies.
-/

namespace BusDoc

open Doc Result

section OnePassage

variable {filters : List String} {p : Passage}

theorem selects_abort (interface : String) :
    CompileOptions.selects ⟨.abort, filters⟩ interface =
      CompileOptions.selects ⟨.skipMalformed, filters⟩ interface := rfl

theorem addPassage_abort_of_quiet (run : Run)
    (h : p.reports ⟨.skipMalformed, filters⟩ = []) :
    run.addPassage ⟨.abort, filters⟩ p = run.addPassage ⟨.skipMalformed, filters⟩ p := by
  cases p with
  | malformed e => cases h
  | unit s u =>
    rw [Passage.reports] at h
    rw [Run.addPassage, Run.addPassage, Run.addUnit, Run.addUnit, selects_abort]
    by_cases hsel : CompileOptions.selects ⟨.skipMalformed, filters⟩ u.interface
    · rw [if_pos hsel, List.map_eq_nil_iff] at h
      have hread : u.read .abort = u.read .skipMalformed := by
        rw [u.read_skip, h]
        exact u.readBlocks_abort_of_readable h
      rw [hread]
    · simp [hsel]

/-- What the skipping policy reports first, the other fails with. -/
theorem addPassage_abort_of_report (run : Run) {d : Diagnostic} {ds : List Diagnostic}
    (h : p.reports ⟨.skipMalformed, filters⟩ = d :: ds) :
    ∃ e, run.addPassage ⟨.abort, filters⟩ p = .error (.parse e) ∧ d.reason? = some e.message := by
  cases p with
  | malformed e =>
    obtain ⟨rfl, -⟩ := List.cons_eq_cons.1 h
    exact ⟨e, rfl, rfl⟩
  | unit s u =>
    rw [Passage.reports] at h
    split at h
    next hsel =>
      obtain ⟨r, rs, hu, rfl, -⟩ := List.map_eq_cons_iff.1 h
      obtain ⟨e, he, hreason⟩ := u.readBlocks_abort_of_unread hu
      refine ⟨e, ?_, by rw [Diagnostic.reason?, hreason]⟩
      rw [Run.addPassage, Run.addUnit, selects_abort, hsel, DocUnit.read, he]
      rfl
    next => cases h

end OnePassage

section WholeRun

variable {filters : List String} {ps : List Passage} {run run' : Run}

theorem foldlM_abort_of_quiet
    (h : ps.flatMap (Passage.reports ⟨.skipMalformed, filters⟩) = []) :
    ps.foldlM (Run.addPassage ⟨.abort, filters⟩) run =
      ps.foldlM (Run.addPassage ⟨.skipMalformed, filters⟩) run := by
  induction ps generalizing run with
  | nil => rfl
  | cons p ps ih =>
    rw [List.flatMap_cons, List.append_eq_nil_iff] at h
    rw [List.foldlM_cons, List.foldlM_cons, addPassage_abort_of_quiet run h.1]
    congr 1
    funext run
    exact ih h.2

theorem foldlM_abort_of_report
    (hskip : ps.foldlM (Run.addPassage ⟨.skipMalformed, filters⟩) run = .ok run')
    {d : Diagnostic} {ds : List Diagnostic}
    (h : ps.flatMap (Passage.reports ⟨.skipMalformed, filters⟩) = d :: ds) :
    ∃ e, ps.foldlM (Run.addPassage ⟨.abort, filters⟩) run = .error (.parse e) ∧
      d.reason? = some e.message := by
  induction ps generalizing run with
  | nil => cases h
  | cons p ps ih =>
    obtain ⟨run₁, hstep, hrest⟩ := foldlM_cons_eq_ok.1 hskip
    rw [List.flatMap_cons] at h
    cases hp : p.reports ⟨.skipMalformed, filters⟩ with
    | nil =>
      rw [hp, List.nil_append] at h
      obtain ⟨e, he, hreason⟩ := ih hrest h
      have hstep' := (addPassage_abort_of_quiet run hp).trans hstep
      exact ⟨e, foldlM_cons_eq_error.2 (.inr ⟨run₁, hstep', he⟩), hreason⟩
    | cons d' ds' =>
      rw [hp, List.cons_append] at h
      obtain ⟨rfl, -⟩ := List.cons_eq_cons.1 h
      obtain ⟨e, he, hreason⟩ := addPassage_abort_of_report run hp
      exact ⟨e, foldlM_cons_eq_error.2 (.inl he), hreason⟩

/-- A run that fails although it skips what is malformed fails also without skipping, if with
another error: what was skipped may come earlier. -/
theorem exists_foldlM_abort_error {e : Error}
    (hskip : ps.foldlM (Run.addPassage ⟨.skipMalformed, filters⟩) run = .error e) :
    ∃ e', ps.foldlM (Run.addPassage ⟨.abort, filters⟩) run = .error e' := by
  induction ps generalizing run with
  | nil => cases hskip
  | cons p ps ih =>
    cases hp : p.reports ⟨.skipMalformed, filters⟩ with
    | nil =>
      have hstep := addPassage_abort_of_quiet run hp
      rcases foldlM_cons_eq_error.1 hskip with hfail | ⟨run₁, hok, hrest⟩
      · exact ⟨e, foldlM_cons_eq_error.2 (.inl (hstep.trans hfail))⟩
      · obtain ⟨e', he'⟩ := ih hrest
        exact ⟨e', foldlM_cons_eq_error.2 (.inr ⟨run₁, hstep.trans hok, he'⟩)⟩
    | cons d ds =>
      obtain ⟨e', he', -⟩ := addPassage_abort_of_report run hp
      exact ⟨_, foldlM_cons_eq_error.2 (.inl he')⟩

end WholeRun

/-! ## The results -/

section Results

variable {filters : List String} {sources : List Source} {c : Compiled}

/-- The reports of a result are those of the passages that were read. -/
theorem reports_of_compile {o : CompileOptions} (h : compile o sources = .ok c) :
    c.reports = (passagesOf sources).flatMap (Passage.reports o) := by
  obtain ⟨run, hrun, rfl⟩ := compile_eq_ok.1 h
  rw [finish_reports (reads_foldlM hrun), (reads_foldlM hrun).reports]

theorem compile_abort_of_quiet (h : compile ⟨.skipMalformed, filters⟩ sources = .ok c)
    (hquiet : c.reports = []) : compile ⟨.abort, filters⟩ sources = .ok c := by
  rw [reports_of_compile h] at hquiet
  obtain ⟨run, hrun, hc⟩ := compile_eq_ok.1 h
  exact compile_eq_ok.2 ⟨run, (foldlM_abort_of_quiet hquiet).trans hrun, hc⟩

theorem compile_abort_of_report (h : compile ⟨.skipMalformed, filters⟩ sources = .ok c)
    {d : Diagnostic} {ds : List Diagnostic} (hd : c.reports = d :: ds) :
    ∃ e, compile ⟨.abort, filters⟩ sources = .error (.parse e) ∧ d.reason? = some e.message := by
  rw [reports_of_compile h] at hd
  obtain ⟨run, hrun, -⟩ := compile_eq_ok.1 h
  obtain ⟨e, he, hreason⟩ := foldlM_abort_of_report hrun hd
  exact ⟨e, compile_eq_error.2 he, hreason⟩

theorem exists_compile_abort_error {e : Error}
    (h : compile ⟨.skipMalformed, filters⟩ sources = .error e) :
    ∃ e', compile ⟨.abort, filters⟩ sources = .error e' := by
  obtain ⟨e', he'⟩ := exists_foldlM_abort_error (compile_eq_error.1 h)
  exact ⟨e', compile_eq_error.2 he'⟩

/-- A run without skipping succeeds only where there is nothing to skip. -/
theorem compile_skip_of_abort (h : compile ⟨.abort, filters⟩ sources = .ok c) :
    compile ⟨.skipMalformed, filters⟩ sources = .ok c ∧ c.reports = [] := by
  cases hskip : compile ⟨.skipMalformed, filters⟩ sources with
  | error e =>
    obtain ⟨e', he'⟩ := exists_compile_abort_error hskip
    rw [h] at he'
    cases he'
  | ok c' =>
    cases hreports : c'.reports with
    | nil =>
      have hc' := compile_abort_of_quiet hskip hreports
      rw [h] at hc'
      cases hc'
      exact ⟨rfl, hreports⟩
    | cons d ds =>
      obtain ⟨e, he, -⟩ := compile_abort_of_report hskip hreports
      rw [h] at he
      cases he

end Results

/-- **The two policies agree.** Where the strict policy succeeds, the skipping one gives the same
result, and it reports nothing. Where the skipping policy succeeds, the strict one gives the same
result if nothing is reported, and otherwise fails with the parse error whose words are the reason
of the first report. Where the skipping policy fails, the strict one fails. -/
theorem compile_policies (filters : List String) (sources : List Source) :
    (∀ c, compile ⟨.abort, filters⟩ sources = .ok c →
      compile ⟨.skipMalformed, filters⟩ sources = .ok c ∧ c.reports = []) ∧
    (∀ c, compile ⟨.skipMalformed, filters⟩ sources = .ok c → c.reports = [] →
      compile ⟨.abort, filters⟩ sources = .ok c) ∧
    (∀ c d ds, compile ⟨.skipMalformed, filters⟩ sources = .ok c → c.reports = d :: ds →
      ∃ e, compile ⟨.abort, filters⟩ sources = .error (.parse e) ∧ d.reason? = some e.message) ∧
    ∀ e, compile ⟨.skipMalformed, filters⟩ sources = .error e →
      ∃ e', compile ⟨.abort, filters⟩ sources = .error e' :=
  ⟨fun _ h => compile_skip_of_abort h, fun _ h => compile_abort_of_quiet h,
    fun _ _ _ h => compile_abort_of_report h, fun _ h => exists_compile_abort_error h⟩

/-- The block of the source that cannot be read is reported under one policy, and its reason is what
the run fails with under the other. -/
theorem compile_policies_mixedSource :
    ∃ c d e, compile ⟨.skipMalformed, []⟩ [mixedSource] = .ok c ∧ c.reports = [d] ∧
      compile ⟨.abort, []⟩ [mixedSource] = .error (.parse e) ∧ d.reason? = some e.message := by
  have hcompiled : (compile ⟨.skipMalformed, []⟩ [mixedSource]).toOption.map
      (fun c => c.reports.length) = some 1 := by decide +kernel
  cases hc : compile ⟨.skipMalformed, []⟩ [mixedSource] with
  | error e =>
    rw [hc] at hcompiled
    cases hcompiled
  | ok c =>
    rw [hc] at hcompiled
    obtain ⟨d, hd⟩ := List.length_eq_one_iff.1 (Option.some.inj hcompiled)
    obtain ⟨-, -, hreport, -⟩ := compile_policies [] [mixedSource]
    obtain ⟨e, he, hreason⟩ := hreport c d [] hc hd
    exact ⟨c, d, e, rfl, hd, he, hreason⟩

end BusDoc
