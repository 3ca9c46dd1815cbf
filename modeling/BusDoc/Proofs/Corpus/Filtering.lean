import BusDoc.Proofs.Corpus.Policies
import Mathlib.Data.List.Infix

/-!
# Filters

A unit whose interface no filter names is not read at all. What the filters leave of a corpus is
what they leave of its result, if the corpus compiles without them: names that are not kept can be
declared twice, and units that are not kept can be malformed, without harm.

* `reports_filter`: the filters leave of the reports on a passage those that concern them.
* `Run.Narrows`: a run under filters against the run without: its interfaces are those kept of the
  other's, and no name is new to it that is not new to the other.
* `Narrows.addPassage`, `Narrows.foldlM`: one passage and a whole run keep that, and the run under
  filters does not fail where the other does not.
* `compile_filters`: filtering a compilation is filtering its result.
-/

namespace BusDoc

open Doc Result

/-! ## What filters keep -/

/-- One of the filters occurs in the name. -/
def Matches (filters : List String) (name : String) : Prop :=
  ∃ f ∈ filters, f.toList <:+: name.toList

instance (filters : List String) (name : String) : Decidable (Matches filters name) :=
  inferInstanceAs (Decidable (∃ f ∈ filters, f.toList <:+: name.toList))

/-- The filters keep the diagnostic: if it is on a block, they keep the interface of the block. -/
def Diagnostic.concerns (filters : List String) : Diagnostic → Bool
  | skipped s => Matches filters s.interface
  | _ => true

section Selection

variable {filters : List String}

theorem selects_without_filters (policy : Policy) (name : String) :
    CompileOptions.selects ⟨policy, []⟩ name = true := rfl

theorem selects_eq (h : filters ≠ []) (policy : Policy) (name : String) :
    CompileOptions.selects ⟨policy, filters⟩ name = decide (Matches filters name) := by
  have hany : (filters.any fun f => Text.contains f.toList name.toList) = true ↔
      Matches filters name := by
    simp only [List.any_eq_true, Text.contains_iff, Matches]
  have hnil : filters.isEmpty = false := by simpa using h
  rw [CompileOptions.selects, hnil, Bool.false_or, Bool.eq_iff_iff, hany, decide_eq_true_iff]

/-- The filters leave of the reports on a passage those that concern them. -/
theorem reports_filter (h : filters ≠ []) (policy : Policy) (p : Passage) :
    (p.reports ⟨policy, []⟩).filter (Diagnostic.concerns filters) =
      p.reports ⟨policy, filters⟩ := by
  cases p with
  | malformed e => rfl
  | unit s u =>
    rw [Passage.reports, Passage.reports, selects_without_filters, if_pos rfl, selects_eq h]
    -- all reports on the unit are on its interface
    have hown : ∀ d ∈ u.unread.map Diagnostic.skipped,
        Diagnostic.concerns filters d = decide (Matches filters u.interface) := by
      intro d hd
      obtain ⟨r, hr, rfl⟩ := List.mem_map.1 hd
      rw [Diagnostic.concerns, interface_of_mem_unread hr]
    by_cases hname : Matches filters u.interface
    · rw [if_pos (decide_eq_true hname), List.filter_eq_self]
      intro d hd
      rw [hown d hd, decide_eq_true hname]
    · rw [if_neg (by simpa using hname), List.filter_eq_nil_iff]
      intro d hd
      rw [hown d hd]
      simpa using hname

end Selection

/-! ## Two runs -/

/-- `narrow` is the state of a run under filters that has read what `run` has read without. -/
structure Run.Narrows (filters : List String) (run narrow : Run) : Prop where
  interfaces : narrow.interfaces = run.interfaces.filter fun i => Matches filters i.name
  declared : narrow.registry.origins.keys ⊆ run.registry.origins.keys

namespace Run.Narrows

variable {policy : Policy} {filters : List String} {run run' narrow : Run}

theorem start (filters : List String) : Run.Narrows filters {} {} := ⟨rfl, fun _ h => h⟩

/-- A passage that is read without filters is read under them, or is a unit that they drop. -/
theorem addPassage (hne : filters ≠ []) (h : run.Narrows filters narrow) {p : Passage}
    (hp : run.addPassage ⟨policy, []⟩ p = .ok run') :
    ∃ narrow', narrow.addPassage ⟨policy, filters⟩ p = .ok narrow' ∧
      run'.Narrows filters narrow' := by
  cases p with
  | malformed e =>
    cases policy with
    | abort => cases hp
    | skipMalformed =>
      cases hp
      exact ⟨_, rfl, h.interfaces, h.declared⟩
  | unit s u =>
    rcases Run.addUnit_eq_ok.1 hp with ⟨hnot, -⟩ | ⟨-, entries, skips, i, registry, hread, hi, rfl⟩
    · rw [selects_without_filters] at hnot
      cases hnot
    obtain ⟨hfresh, hadd, hdeclared⟩ := Registry.assemble_eq_ok hi
    have hname : i.name = u.interface := (Interface.extends_of_addEntries hadd).header.1
    have hkeys : registry.origins.keys = run.registry.origins.keys ++ [u.interface] := by
      rw [OrderedMap.keys, hdeclared, List.map_append]
      rfl
    by_cases hkept : Matches filters u.interface
    · -- the name is new to the run under filters too
      have hfresh' : u.header.name ∉ narrow.registry.origins.keys :=
        fun hmem => hfresh (h.declared hmem)
      obtain ⟨registry', hi', hdeclared'⟩ := Registry.exists_assemble hfresh' hadd s.name
      have hkeys' : registry'.origins.keys = narrow.registry.origins.keys ++ [u.interface] := by
        rw [OrderedMap.keys, hdeclared', List.map_append]
        rfl
      refine ⟨_, Run.addUnit_eq_ok.2 (.inr ⟨?_, entries, skips, i, registry', hread, hi', rfl⟩),
        ?_, ?_⟩
      · rw [selects_eq hne, decide_eq_true hkept]
      · show narrow.interfaces ++ [i] = (run.interfaces ++ [i]).filter _
        rw [h.interfaces, List.filter_append, List.filter_singleton, hname,
          decide_eq_true hkept]
        rfl
      · show registry'.origins.keys ⊆ registry.origins.keys
        rw [hkeys, hkeys']
        exact List.append_subset.2 ⟨fun _ hk => List.mem_append_left _ (h.declared hk),
          List.subset_append_right _ _⟩
    · refine ⟨narrow, Run.addUnit_eq_ok.2 (.inl ⟨?_, rfl⟩), ?_, ?_⟩
      · rw [selects_eq hne, decide_eq_false hkept]
      · show narrow.interfaces = (run.interfaces ++ [i]).filter _
        rw [h.interfaces, List.filter_append, List.filter_singleton, hname,
          decide_eq_false hkept]
        exact (List.append_nil _).symm
      · show narrow.registry.origins.keys ⊆ registry.origins.keys
        rw [hkeys]
        exact fun _ hk => List.mem_append_left _ (h.declared hk)

theorem foldlM (hne : filters ≠ []) (h : run.Narrows filters narrow) {ps : List Passage}
    (hps : ps.foldlM (Run.addPassage ⟨policy, []⟩) run = .ok run') :
    ∃ narrow', ps.foldlM (Run.addPassage ⟨policy, filters⟩) narrow = .ok narrow' ∧
      run'.Narrows filters narrow' := by
  induction ps generalizing run narrow with
  | nil =>
    rw [foldlM_nil_eq_ok] at hps
    exact ⟨narrow, rfl, hps ▸ h⟩
  | cons p ps ih =>
    obtain ⟨run₁, hstep, hrest⟩ := foldlM_cons_eq_ok.1 hps
    obtain ⟨narrow₁, hstep', h₁⟩ := h.addPassage hne hstep
    obtain ⟨narrow', hrest', h'⟩ := ih h₁ hrest
    exact ⟨narrow', foldlM_cons_eq_ok.2 ⟨narrow₁, hstep', hrest'⟩, h'⟩

end Run.Narrows

/-! ## The results -/

/-- **Filtering a compilation is filtering its result.** If a corpus compiles without filters, it
compiles under filters. The interfaces are those whose name a filter occurs in, and the reports are
those on sources and on blocks of such interfaces, both in the same order. Besides them there is
only the remark that nothing was found, exactly if no interface is left. -/
theorem compile_filters {policy : Policy} {filters : List String} (hne : filters ≠ [])
    {sources : List Source} {c : Compiled} (h : compile ⟨policy, []⟩ sources = .ok c) :
    ∃ c', compile ⟨policy, filters⟩ sources = .ok c' ∧
      c'.api.interfaces = c.api.interfaces.filter (fun i => Matches filters i.name) ∧
      c'.reports = c.reports.filter (Diagnostic.concerns filters) ∧
      c'.diagnostics = c'.reports ++ (if c'.api.interfaces = [] then [.noInterfaces] else []) ∧
      (.noInterfaces ∈ c'.diagnostics ↔ c'.api.interfaces = []) := by
  obtain ⟨run, hrun, rfl⟩ := compile_eq_ok.1 h
  obtain ⟨narrow, hnarrow, hkept⟩ := (Run.Narrows.start filters).foldlM hne hrun
  have h' : compile ⟨policy, filters⟩ sources = .ok narrow.finish :=
    compile_eq_ok.2 ⟨narrow, hnarrow, rfl⟩
  refine ⟨narrow.finish, h', hkept.interfaces, ?_, diagnostics_of_compile h',
    noInterfaces_mem_iff h'⟩
  calc narrow.finish.reports
      = (passagesOf sources).flatMap (Passage.reports ⟨policy, filters⟩) := reports_of_compile h'
    _ = (passagesOf sources).flatMap fun p =>
          (p.reports ⟨policy, []⟩).filter (Diagnostic.concerns filters) := by
        simp only [reports_filter hne]
    _ = ((passagesOf sources).flatMap (Passage.reports ⟨policy, []⟩)).filter
          (Diagnostic.concerns filters) := List.filter_flatMap.symm
    _ = run.finish.reports.filter (Diagnostic.concerns filters) := by rw [reports_of_compile h]

/-- Under a filter that only the second interface passes, the report on the first one is gone
too. -/
theorem compile_filters_mixedSource :
    ∃ c c', compile ⟨.skipMalformed, []⟩ [mixedSource] = .ok c ∧
      compile ⟨.skipMalformed, ["B"]⟩ [mixedSource] = .ok c' ∧
      c.api.names = ["a.A", "b.B"] ∧ c.reports.length = 1 ∧
      c'.api.names = ["b.B"] ∧ c'.reports = [] := by
  have hcompiled : (compile ⟨.skipMalformed, []⟩ [mixedSource]).toOption.map (fun c =>
      (c.api.names, c.reports.map (Diagnostic.concerns ["B"]))) =
        some (["a.A", "b.B"], [false]) := by decide +kernel
  cases hc : compile ⟨.skipMalformed, []⟩ [mixedSource] with
  | error e =>
    rw [hc] at hcompiled
    cases hcompiled
  | ok c =>
    rw [hc] at hcompiled
    obtain ⟨hnames, hconcerns⟩ := Prod.mk.inj (Option.some.inj hcompiled)
    obtain ⟨c', hc', hinterfaces, hreports, -, -⟩ :=
      compile_filters (List.cons_ne_nil "B" []) hc
    obtain ⟨d, hd, hdropped⟩ := List.map_eq_singleton_iff.1 hconcerns
    refine ⟨c, c', rfl, hc', hnames, by rw [hd]; rfl, ?_, ?_⟩
    · have hnames' : c'.api.names = c.api.names.filter fun n => Matches ["B"] n := by
        show c'.api.interfaces.map Interface.name = (c.api.interfaces.map Interface.name).filter _
        rw [hinterfaces, List.filter_map]
        rfl
      rw [hnames', hnames]
      decide
    · rw [hreports, hd, List.filter_singleton, hdropped]
      rfl

end BusDoc
