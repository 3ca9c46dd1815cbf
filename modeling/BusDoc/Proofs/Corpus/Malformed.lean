import BusDoc.Proofs.Corpus.Coverage

/-!
# What a malformed unit costs

Each range of lines of a source is a unit, prose, or malformed, whatever the other ranges are. A
source is split as a whole, though: one malformed range is reported, and no unit of its source is
read.

* `splitUnits_of_faults_eq_nil`, `splitUnits_of_faults_eq_cons`: a source without malformed ranges
  gives the units of all its ranges, any other the fault of the first malformed one.
* `warnings_foldlM`: a run reports one fault for each source that has any.
* `salvaged_of_faults_eq_nil`, `salvaged_of_units_eq_nil`: sources that lose nothing.
* `salvaged_iff`: the units of a source survive its malformed ranges, and all of these are
  reported, exactly if there are none, or if there is no unit to lose and one report covers them.
-/

namespace BusDoc

open Doc Result Text

/-- The message of a warning, if the diagnostic is one. -/
def Diagnostic.warning? : Diagnostic → Option String
  | warning message => some message
  | _ => none

namespace Source

/-- The line ranges of the source: from one underlined title to the next, or the whole file if it
has no title. -/
def ranges (s : Source) : List (List Line) := unitRanges (fileLines s.content.toList)

/-- The units that the ranges of the source give, each range read on its own. -/
def units (s : Source) : List DocUnit :=
  s.ranges.filterMap fun ls => (unitOfLines s.name ls).toOption.join

/-- The faults of the malformed ranges of the source, each range read on its own. -/
def faults (s : Source) : List ParseError :=
  s.ranges.filterMap fun ls => fault? (unitOfLines s.name ls)

theorem splitUnits_of_faults_eq_nil {s : Source} (h : s.faults = []) :
    splitUnits s.name s.content = .ok s.units := by
  unfold splitUnits
  rw [show (unitRanges (fileLines s.content.toList)).mapM (unitOfLines s.name) = _ from
    mapM_eq_ok h]
  show Except.ok (List.filterMap id _) = Except.ok s.units
  rw [List.filterMap_filterMap]
  rfl

theorem splitUnits_of_faults_eq_cons {s : Source} {e : ParseError} {es : List ParseError}
    (h : s.faults = e :: es) : splitUnits s.name s.content = .error e := by
  unfold splitUnits
  rw [show (unitRanges (fileLines s.content.toList)).mapM (unitOfLines s.name) = _ from
    mapM_eq_error h]
  rfl

/-- A malformed range costs nothing but itself: every unit of the source is in the result, and
every malformed range is reported. -/
structure Salvaged (s : Source) (c : Compiled) : Prop where
  units : ∀ u ∈ s.units, ∃ i ∈ c.api.interfaces, Describes u i
  faults : ∀ e ∈ s.faults, .warning e.message ∈ c.diagnostics

end Source

/-! ## Reports on sources -/

theorem warnings_addUnit {filters : List String} {origin : String} {run run' : Run} {u : DocUnit}
    (h : run.addUnit ⟨.skipMalformed, filters⟩ origin u = .ok run') :
    run'.diagnostics.filterMap Diagnostic.warning? =
      run.diagnostics.filterMap Diagnostic.warning? := by
  rcases Run.addUnit_eq_ok.1 h with ⟨-, rfl⟩ | ⟨-, entries, skips, i, registry, -, -, rfl⟩
  · rfl
  · have hskips : (skips.map Diagnostic.skipped).filterMap Diagnostic.warning? = [] := by
      rw [List.filterMap_map, List.filterMap_eq_nil_iff]
      exact fun _ _ => rfl
    rw [List.filterMap_append, hskips, List.append_nil]

theorem warnings_addSource {filters : List String} {run run' : Run} {s : Source}
    (h : Run.addSource ⟨.skipMalformed, filters⟩ run s = .ok run') :
    run'.diagnostics.filterMap Diagnostic.warning? =
      run.diagnostics.filterMap Diagnostic.warning? ++
        (s.faults.head?.map ParseError.message).toList := by
  unfold Run.addSource at h
  cases hf : s.faults with
  | nil =>
    rw [Source.splitUnits_of_faults_eq_nil hf] at h
    have hunits := foldlM_induction
      (P := fun _ r => r.diagnostics.filterMap Diagnostic.warning? =
        run.diagnostics.filterMap Diagnostic.warning?)
      rfl (fun hdone hu => (warnings_addUnit hu).trans hdone) h
    rw [hunits]
    simp
  | cons e es =>
    rw [Source.splitUnits_of_faults_eq_cons hf] at h
    cases h
    simp [Diagnostic.warning?]

/-- Of the malformed ranges of a source only the first is reported. -/
theorem warnings_foldlM {filters : List String} {sources : List Source} {run : Run}
    (h : sources.foldlM (Run.addSource ⟨.skipMalformed, filters⟩) {} = .ok run) :
    run.diagnostics.filterMap Diagnostic.warning? =
      sources.filterMap fun s => s.faults.head?.map ParseError.message := by
  refine foldlM_induction
    (P := fun ss r => r.diagnostics.filterMap Diagnostic.warning? =
      ss.filterMap fun s => s.faults.head?.map ParseError.message)
    rfl (fun {done s r r'} hdone hs => ?_) h
  rw [warnings_addSource hs, hdone, List.filterMap_append]
  cases hf : s.faults.head? <;> simp [hf]

/-! ## Units that survive -/

theorem mem_selectedUnits {sources : List Source} {s : Source} {u : DocUnit} (hs : s ∈ sources)
    (hf : s.faults = []) (hu : u ∈ s.units) :
    (s, u) ∈ selectedUnits ⟨.skipMalformed, []⟩ sources := by
  refine List.mem_flatMap.2 ⟨s, hs, ?_⟩
  unfold Source.selected
  rw [Source.splitUnits_of_faults_eq_nil hf]
  exact List.mem_map.2 ⟨u, List.mem_filter.2 ⟨hu, rfl⟩, rfl⟩

/-- The remark on a run without interfaces is all that its end adds. -/
theorem mem_finish_of_mem {run : Run} {d : Diagnostic} (h : d ∈ run.diagnostics) :
    d ∈ run.finish.diagnostics := by
  unfold Run.finish
  split
  · exact List.mem_append_left _ h
  · exact h

/-- What a corpus of one source with a malformed range compiles to. -/
theorem compile_singleton_of_faults_eq_cons {s : Source} {e : ParseError} {es : List ParseError}
    (h : s.faults = e :: es) :
    compile ⟨.skipMalformed, []⟩ [s] =
      .ok ⟨⟨[]⟩, [.warning e.message, .info "no interfaces found in corpus"]⟩ := by
  have hs : Run.addSource ⟨.skipMalformed, []⟩ {} s =
      .ok { diagnostics := [.warning e.message] } := by
    unfold Run.addSource
    rw [Source.splitUnits_of_faults_eq_cons h]
    rfl
  unfold compile
  rw [List.foldlM_cons, hs]
  rfl

theorem salvaged_of_faults_eq_nil {sources : List Source} {s : Source} {c : Compiled}
    (hs : s ∈ sources) (hc : compile ⟨.skipMalformed, []⟩ sources = .ok c) (hf : s.faults = []) :
    s.Salvaged c := by
  obtain ⟨run, hrun, hc⟩ := bind_eq_ok.1 hc
  cases hc
  refine ⟨fun u hu => ?_, fun e he => ?_⟩
  · have hkept := (tracks_foldlM hrun).interfaces
    obtain ⟨i, hi, hd⟩ := exists_of_forall₂ hkept (mem_selectedUnits hs hf hu)
    exact ⟨i, hi, hd⟩
  · rw [hf] at he
    cases he

/-- The fault that is reported has the message of every other. -/
theorem salvaged_of_units_eq_nil {sources : List Source} {s : Source} {c : Compiled}
    (hs : s ∈ sources) (hc : compile ⟨.skipMalformed, []⟩ sources = .ok c) (hu : s.units = [])
    (hmessage : ∀ e ∈ s.faults, ∀ f ∈ s.faults, e.message = f.message) : s.Salvaged c := by
  obtain ⟨run, hrun, hc⟩ := bind_eq_ok.1 hc
  cases hc
  refine ⟨fun u hmem => ?_, fun e he => ?_⟩
  · rw [hu] at hmem
    cases hmem
  · obtain ⟨first, hfirst⟩ : ∃ f, s.faults.head? = some f :=
      Option.isSome_iff_exists.1 (by rw [List.isSome_head?]; exact List.ne_nil_of_mem he)
    have hw : first.message ∈ run.diagnostics.filterMap Diagnostic.warning? := by
      rw [warnings_foldlM hrun]
      exact List.mem_filterMap.2 ⟨s, hs, by rw [hfirst]; rfl⟩
    obtain ⟨d, hd, hwarn⟩ := List.mem_filterMap.1 hw
    cases d with
    | warning message =>
      cases hwarn
      rw [hmessage e he first (List.mem_of_head? hfirst)]
      exact mem_finish_of_mem hd
    | skipped block => cases hwarn
    | info message => cases hwarn

/-- **Malformed ranges.** A source keeps its units in every corpus, and has all its malformed
ranges reported, exactly if it has no malformed range, or if it has no unit and one message for all
its malformed ranges. -/
theorem salvaged_iff (s : Source) :
    (∀ sources c, s ∈ sources → compile ⟨.skipMalformed, []⟩ sources = .ok c → s.Salvaged c) ↔
      s.faults = [] ∨
        s.units = [] ∧ ∀ e ∈ s.faults, ∀ f ∈ s.faults, e.message = f.message := by
  constructor
  · intro h
    cases hf : s.faults with
    | nil => exact .inl rfl
    | cons e es =>
      -- alone in its corpus, the source leaves one warning and nothing else
      have hs := h [s] _ (List.mem_singleton_self s) (compile_singleton_of_faults_eq_cons hf)
      have hmessage : ∀ f ∈ e :: es, f.message = e.message := fun f hmem => by
        simpa using hs.faults f (hf ▸ hmem)
      refine .inr ⟨List.eq_nil_iff_forall_not_mem.2 fun u hu => ?_, fun f hf' g hg => ?_⟩
      · obtain ⟨i, hi, -⟩ := hs.units u hu
        cases hi
      · rw [hmessage f hf', hmessage g hg]
  · rintro (hf | ⟨hu, hmessage⟩) sources c hs hc
    · exact salvaged_of_faults_eq_nil hs hc hf
    · exact salvaged_of_units_eq_nil hs hc hu hmessage

/-- A source with a unit, and with a second title that no interface header follows. -/
def halfMalformed : Source where
  name := "a.txt"
  content := "A hierarchy\n===========\n\nService\torg.example\nInterface\torg.example.A\n\n" ++
    "B hierarchy\n===========\n\nService\torg.example\n"

/-- The range of the first title is a unit, and its interface is not in the result. -/
theorem halfMalformed_lost :
    halfMalformed.units.map DocUnit.interface = ["org.example.A"] ∧
      halfMalformed.faults.length = 1 ∧
      ∃ c, compile ⟨.skipMalformed, []⟩ [halfMalformed] = .ok c ∧ c.api.interfaces = [] ∧
        ¬ halfMalformed.Salvaged c := by
  have hunits : halfMalformed.units.map DocUnit.interface = ["org.example.A"] := by decide +kernel
  have hfaults : halfMalformed.faults.length = 1 := by decide +kernel
  obtain ⟨e, he⟩ := List.length_eq_one_iff.1 hfaults
  refine ⟨hunits, hfaults, _, compile_singleton_of_faults_eq_cons he, rfl, fun hs => ?_⟩
  obtain ⟨u, hu, -⟩ := List.mem_map.1 (hunits ▸ List.mem_singleton_self _)
  obtain ⟨i, hi, -⟩ := hs.units u hu
  cases hi

end BusDoc
