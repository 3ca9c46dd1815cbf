import BusDoc.Proofs.Corpus.Passages

/-!
# Corpora one after the other

Compiling a corpus that consists of two parts is compiling the parts: all that the first part hands
on to the second is the names that it has declared.

* `Run.Continues`: the state of a run that has read one list of passages after another, against
  the states of the runs that read each of them alone.
* `Continues.exists_addPassage`: a passage adds the same to all runs to which its name is new.
* `Continues.addPassage`, `Continues.addPassage_of_declared`: what one passage does to both, if its
  name is new to the first run and if it is not; `Continues.of_addPassage` goes back.
* `Continues.foldlM`, `Continues.foldlM_of_declared`, `Continues.foldlM_error`: the same for the
  rest of a run, and what a failure means.
* `compile_append`: the four cases of a corpus of two parts, and the remark on an empty result.
-/

namespace BusDoc

open Doc Result

/-- The source has a unit that declares the interface. -/
def Source.Declares (s : Source) (name : String) : Prop :=
  ∃ units, splitUnits s.name s.content = .ok units ∧ ∃ u ∈ units, u.interface = name

/-- `c` is the state of a run that went on from `a` where another run has come to `r`. -/
structure Run.Continues (a r c : Run) : Prop where
  declared : c.registry.origins.entries = a.registry.origins.entries ++ r.registry.origins.entries
  interfaces : c.interfaces = a.interfaces ++ r.interfaces
  diagnostics : c.diagnostics = a.diagnostics ++ r.diagnostics

namespace Run.Continues

variable {o : CompileOptions} {a r r' c : Run} {p : Passage} {ps : List Passage}

theorem start (a : Run) : a.Continues {} a :=
  ⟨(List.append_nil _).symm, (List.append_nil _).symm, (List.append_nil _).symm⟩

theorem report (a : Run) (d : Diagnostic) :
    a.Continues { diagnostics := [d] } { a with diagnostics := a.diagnostics ++ [d] } :=
  ⟨(List.append_nil _).symm, (List.append_nil _).symm, rfl⟩

theorem mem_keys (h : a.Continues r c) {name : String} :
    name ∈ c.registry.origins.keys ↔
      name ∈ a.registry.origins.keys ∨ name ∈ r.registry.origins.keys := by
  unfold OrderedMap.keys
  rw [h.declared, List.map_append, List.mem_append]

theorem get? (h : a.Continues r c) {name first : String}
    (hget : a.registry.origins.get? name = some first) :
    c.registry.origins.get? name = some first := by
  unfold OrderedMap.get? at hget ⊢
  rw [h.declared]
  exact entryOf?_append_of_some hget

theorem assoc (h : a.Continues r c) {added c' : Run} (hr : r.Continues added r')
    (hc : c.Continues added c') : a.Continues r' c' where
  declared := by rw [hc.declared, h.declared, hr.declared, List.append_assoc]
  interfaces := by rw [hc.interfaces, h.interfaces, hr.interfaces, List.append_assoc]
  diagnostics := by rw [hc.diagnostics, h.diagnostics, hr.diagnostics, List.append_assoc]

/-! ### One passage -/

theorem notMem_keys_of_addPassage (hr : r.addPassage o p = .ok r') {su : Source × DocUnit}
    (hsu : su ∈ p.selected o) : su.2.interface ∉ r.registry.origins.keys := by
  cases p with
  | malformed e => cases hsu
  | unit s u =>
    rw [Passage.selected_unit] at hsu
    rcases Run.addUnit_eq_ok.1 hr with ⟨hsel, -⟩ | ⟨hsel, entries, skips, i, registry, -, hi, -⟩
    · rw [hsel] at hsu
      cases hsu
    · rw [if_pos hsel] at hsu
      rw [List.mem_singleton.1 hsu]
      exact (Registry.assemble_eq_ok hi).1

/-- What a passage adds to one run it adds to every run to which its name is new. -/
theorem exists_addPassage (hr : r.addPassage o p = .ok r')
    (hnew : ∀ su ∈ p.selected o, su.2.interface ∉ c.registry.origins.keys) :
    ∃ c' added, c.addPassage o p = .ok c' ∧ r.Continues added r' ∧ c.Continues added c' := by
  cases p with
  | malformed e =>
    rw [Run.addPassage] at hr ⊢
    split at hr
    next => cases hr
    next =>
      cases hr
      exact ⟨_, _, rfl, report r _, report c _⟩
  | unit s u =>
    rw [Passage.selected_unit] at hnew
    rcases Run.addUnit_eq_ok.1 hr with
      ⟨hsel, rfl⟩ | ⟨hsel, entries, skips, i, registry, hread, hi, rfl⟩
    · exact ⟨c, {}, Run.addUnit_eq_ok.2 (.inl ⟨hsel, rfl⟩), start _, start c⟩
    · obtain ⟨-, hadd, hdeclared⟩ := Registry.assemble_eq_ok hi
      have hfresh : u.header.name ∉ c.registry.origins.keys := hnew (s, u) (by simp [hsel])
      obtain ⟨registry', hi', hdeclared'⟩ := Registry.exists_assemble hfresh hadd s.name
      exact ⟨_, ⟨⟨.ofList [(u.header.name, s.name)]⟩, [i], skips.map .skipped⟩,
        Run.addUnit_eq_ok.2 (.inr ⟨hsel, entries, skips, i, registry', hread, hi', rfl⟩),
        ⟨hdeclared, rfl, rfl⟩, ⟨hdeclared', rfl, rfl⟩⟩

/-- A passage whose name the first run has not declared is read as if there had been no first
run. -/
theorem addPassage (h : a.Continues r c) (hr : r.addPassage o p = .ok r')
    (hnew : ∀ su ∈ p.selected o, su.2.interface ∉ a.registry.origins.keys) :
    ∃ c', c.addPassage o p = .ok c' ∧ a.Continues r' c' := by
  obtain ⟨c', added, hc, hr', hc'⟩ := exists_addPassage (c := c) hr fun su hsu hmem =>
    (h.mem_keys.1 hmem).elim (hnew su hsu) (notMem_keys_of_addPassage hr hsu)
  exact ⟨c', hc, h.assoc hr' hc'⟩

/-- What is read after the first run is read without it. -/
theorem of_addPassage (h : a.Continues r c) {c' : Run} (hc : c.addPassage o p = .ok c') :
    ∃ r', r.addPassage o p = .ok r' ∧ a.Continues r' c' := by
  obtain ⟨r', added, hr, hc', hr'⟩ := exists_addPassage (c := r) hc fun su hsu hmem =>
    notMem_keys_of_addPassage hc hsu (h.mem_keys.2 (.inr hmem))
  exact ⟨r', hr, h.assoc hr' hc'⟩

/-- A passage whose name the first run has declared is refused, with the sources of both. -/
theorem addPassage_of_declared (h : a.Continues r c) (hr : r.addPassage o p = .ok r')
    {s : Source} {u : DocUnit} {first : String} (hsu : (s, u) ∈ p.selected o)
    (hget : a.registry.origins.get? u.interface = some first) :
    c.addPassage o p = .error (.assemble (.duplicateInterface u.interface first s.name)) := by
  cases p with
  | malformed e => cases hsu
  | unit t v =>
    rw [Passage.selected_unit] at hsu
    split at hsu
    next hsel =>
      obtain ⟨rfl, rfl⟩ := Prod.mk.inj (List.mem_singleton.1 hsu)
      rcases Run.addUnit_eq_ok.1 hr with ⟨hnot, -⟩ | ⟨-, entries, skips, i, registry, hread, -, -⟩
      · rw [hsel] at hnot
        cases hnot
      · have hrefused : c.registry.assemble u.header entries s.name =
            .error (.duplicateInterface u.interface first s.name) :=
          Registry.assemble_of_declared (h.get? hget) entries s.name
        rw [Run.addPassage, Run.addUnit, hsel, hread]
        simp only [Bool.not_true, Bool.false_eq_true, if_false]
        show Except.mapError Error.assemble (c.registry.assemble u.header entries s.name) >>= _ = _
        rw [hrefused]
        rfl
    next => cases hsu

/-! ### The rest of a run -/

theorem foldlM (h : a.Continues r c) (hr : ps.foldlM (Run.addPassage o) r = .ok r')
    (hnew : ∀ su ∈ ps.flatMap (Passage.selected o),
      su.2.interface ∉ a.registry.origins.keys) :
    ∃ c', ps.foldlM (Run.addPassage o) c = .ok c' ∧ a.Continues r' c' := by
  induction ps generalizing r c with
  | nil =>
    rw [foldlM_nil_eq_ok] at hr
    exact ⟨c, rfl, hr ▸ h⟩
  | cons p ps ih =>
    obtain ⟨r₁, hstep, hrest⟩ := foldlM_cons_eq_ok.1 hr
    rw [List.flatMap_cons, List.forall_mem_append] at hnew
    obtain ⟨c₁, hc₁, h₁⟩ := h.addPassage hstep hnew.1
    obtain ⟨c', hc', h'⟩ := ih h₁ hrest hnew.2
    exact ⟨c', foldlM_cons_eq_ok.2 ⟨c₁, hc₁, hc'⟩, h'⟩

/-- The first passage whose name the first run has declared ends the run. -/
theorem foldlM_of_declared (h : a.Continues r c) (hr : ps.foldlM (Run.addPassage o) r = .ok r')
    {s : Source} {u : DocUnit} {first : String}
    (hfind : (ps.flatMap (Passage.selected o)).find?
      (fun su => su.2.interface ∈ a.registry.origins.keys) = some (s, u))
    (hget : a.registry.origins.get? u.interface = some first) :
    ps.foldlM (Run.addPassage o) c =
      .error (.assemble (.duplicateInterface u.interface first s.name)) := by
  induction ps generalizing r c with
  | nil => cases hfind
  | cons p ps ih =>
    obtain ⟨r₁, hstep, hrest⟩ := foldlM_cons_eq_ok.1 hr
    rw [List.flatMap_cons, List.find?_append] at hfind
    cases hp : (p.selected o).find? (fun su => su.2.interface ∈ a.registry.origins.keys) with
    | some tv =>
      rw [hp] at hfind
      obtain rfl : tv = (s, u) := Option.some.inj hfind
      exact foldlM_cons_eq_error.2
        (.inl (h.addPassage_of_declared hstep (List.mem_of_find?_eq_some hp) hget))
    | none =>
      rw [hp] at hfind
      have hnew : ∀ su ∈ p.selected o, su.2.interface ∉ a.registry.origins.keys := by
        simpa using List.find?_eq_none.1 hp
      obtain ⟨c₁, hc₁, h₁⟩ := h.addPassage hstep hnew
      exact foldlM_cons_eq_error.2 (.inr ⟨c₁, hc₁, ih h₁ hrest hfind⟩)

/-- What fails without the first run fails after it, if with another error: a name that the first
run has declared may come earlier. -/
theorem foldlM_error (h : a.Continues r c) {e : Error}
    (hr : ps.foldlM (Run.addPassage o) r = .error e) :
    ∃ e', ps.foldlM (Run.addPassage o) c = .error e' := by
  induction ps generalizing r c with
  | nil => cases hr
  | cons p ps ih =>
    cases hc : c.addPassage o p with
    | error e' => exact ⟨e', foldlM_cons_eq_error.2 (.inl hc)⟩
    | ok c₁ =>
      obtain ⟨r₁, hr₁, h₁⟩ := h.of_addPassage hc
      rcases foldlM_cons_eq_error.1 hr with hstep | ⟨r₂, hr₂, hrest⟩
      · rw [hr₁] at hstep
        cases hstep
      · rw [hr₁] at hr₂
        cases hr₂
        obtain ⟨e', he'⟩ := ih h₁ hrest
        exact ⟨e', foldlM_cons_eq_error.2 (.inr ⟨c₁, hc, he'⟩)⟩

end Run.Continues

/-! ## Two corpora -/

section TwoCorpora

variable {o : CompileOptions} {A B : List Source} {a b : Compiled}

theorem declares_of_mem_selectedUnits {su : Source × DocUnit} (h : su ∈ selectedUnits o A) :
    su.1 ∈ A ∧ su.1.Declares su.2.interface := by
  obtain ⟨s, hs, hsu⟩ := List.mem_flatMap.1 h
  unfold Source.selected at hsu
  split at hsu
  next units hsplit =>
    obtain ⟨u, hu, rfl⟩ := List.mem_map.1 hsu
    exact ⟨hs, units, hsplit, u, List.mem_of_mem_filter hu, rfl⟩
  next => cases hsu

theorem foldlM_passagesOf_append {run : Run}
    (hrun : (passagesOf A).foldlM (Run.addPassage o) {} = .ok run) :
    (passagesOf (A ++ B)).foldlM (Run.addPassage o) {} =
      (passagesOf B).foldlM (Run.addPassage o) run := by
  rw [passagesOf_append, List.foldlM_append, hrun]
  rfl

theorem compile_append_of_error {e : Error} (h : compile o A = .error e) :
    compile o (A ++ B) = .error e := by
  rw [compile_eq_error] at h ⊢
  rw [passagesOf_append, List.foldlM_append, h]
  rfl

theorem compile_append_of_new (ha : compile o A = .ok a) (hb : compile o B = .ok b)
    (hnew : ∀ name ∈ b.api.names, name ∉ a.api.names) :
    ∃ c, compile o (A ++ B) = .ok c ∧ c.api.interfaces = a.api.interfaces ++ b.api.interfaces ∧
      c.reports = a.reports ++ b.reports := by
  obtain ⟨ra, hra, rfl⟩ := compile_eq_ok.1 ha
  obtain ⟨rb, hrb, rfl⟩ := compile_eq_ok.1 hb
  have hA := reads_foldlM hra
  have hB := reads_foldlM hrb
  have hfresh : ∀ su ∈ (passagesOf B).flatMap (Passage.selected o),
      su.2.interface ∉ ra.registry.origins.keys := fun su hsu => by
    rw [hA.keys]
    refine hnew _ ?_
    show su.2.interface ∈ rb.interfaces.map Interface.name
    rw [hB.names]
    exact List.mem_map_of_mem hsu
  obtain ⟨rc, hrc, hcont⟩ := (Run.Continues.start ra).foldlM hrb hfresh
  have hC := (foldlM_passagesOf_append hra).trans hrc
  refine ⟨rc.finish, compile_eq_ok.2 ⟨rc, hC, rfl⟩, hcont.interfaces, ?_⟩
  rw [finish_reports (reads_foldlM hC), finish_reports hA, finish_reports hB, hcont.diagnostics]

theorem compile_append_of_shared (ha : compile o A = .ok a) (hb : compile o B = .ok b)
    {name : String} (hname : b.api.names.find? (fun n => n ∈ a.api.names) = some name) :
    ∃ s ∈ A, ∃ t ∈ B, s.Declares name ∧ t.Declares name ∧
      compile o (A ++ B) = .error (.assemble (.duplicateInterface name s.name t.name)) := by
  obtain ⟨ra, hra, rfl⟩ := compile_eq_ok.1 ha
  obtain ⟨rb, hrb, rfl⟩ := compile_eq_ok.1 hb
  have hA := reads_foldlM hra
  have hB := reads_foldlM hrb
  -- the first name that is shared stands in the first unit whose name the run of `A` has declared
  replace hname : (rb.interfaces.map Interface.name).find?
      (fun n => n ∈ ra.interfaces.map Interface.name) = some name := hname
  rw [hB.names, ← hA.keys, List.find?_map] at hname
  obtain ⟨⟨t, v⟩, hfind, rfl⟩ := Option.map_eq_some_iff.1 hname
  have hdeclared : v.interface ∈ ra.registry.origins.keys := by
    simpa using List.find?_some hfind
  obtain ⟨first, hget⟩ : ∃ first, ra.registry.origins.get? v.interface = some first := by
    rw [← Option.isSome_iff_exists, ← Option.ne_none_iff_isSome]
    exact fun hnone => entryOf?_eq_none_iff.1 hnone hdeclared
  obtain ⟨⟨s, u⟩, hsu, hu, rfl⟩ := hA.exists_of_get? hget
  have htv := List.mem_of_find?_eq_some hfind
  rw [← selectedUnits_eq] at hsu htv
  obtain ⟨hs, hsdeclares⟩ := declares_of_mem_selectedUnits hsu
  obtain ⟨ht, htdeclares⟩ := declares_of_mem_selectedUnits htv
  refine ⟨s, hs, t, ht, hu ▸ hsdeclares, htdeclares, ?_⟩
  rw [compile_eq_error, foldlM_passagesOf_append hra]
  exact (Run.Continues.start ra).foldlM_of_declared hrb hfind hget

theorem exists_compile_append_error (ha : compile o A = .ok a) {e : Error}
    (hb : compile o B = .error e) : ∃ e', compile o (A ++ B) = .error e' := by
  obtain ⟨ra, hra, -⟩ := compile_eq_ok.1 ha
  obtain ⟨e', he'⟩ := (Run.Continues.start ra).foldlM_error (compile_eq_error.1 hb)
  exact ⟨e', compile_eq_error.2 ((foldlM_passagesOf_append hra).trans he')⟩

end TwoCorpora

/-- **Two corpora as one.** Compiling `A` and then `B` fails as `A` does, if `A` fails. If both
succeed and share no name, it gives the interfaces and the reports of `A` and then those of `B`. If
both succeed and share a name, it fails at the first name of `B` that `A` has, with the sources that
declare it in `A` and in `B`. If only `B` fails, it fails. Besides its reports a result has one
remark, if it has no interface, and none otherwise. -/
theorem compile_append (o : CompileOptions) (A B : List Source) :
    (∀ e, compile o A = .error e → compile o (A ++ B) = .error e) ∧
    (∀ a b, compile o A = .ok a → compile o B = .ok b →
      (∀ name ∈ b.api.names, name ∉ a.api.names) →
      ∃ c, compile o (A ++ B) = .ok c ∧ c.api.interfaces = a.api.interfaces ++ b.api.interfaces ∧
        c.reports = a.reports ++ b.reports) ∧
    (∀ a b name, compile o A = .ok a → compile o B = .ok b →
      b.api.names.find? (fun n => n ∈ a.api.names) = some name →
      ∃ s ∈ A, ∃ t ∈ B, s.Declares name ∧ t.Declares name ∧
        compile o (A ++ B) = .error (.assemble (.duplicateInterface name s.name t.name))) ∧
    (∀ a e, compile o A = .ok a → compile o B = .error e →
      ∃ e', compile o (A ++ B) = .error e') ∧
    ∀ c, compile o A = .ok c →
      c.diagnostics = c.reports ++ (if c.api.interfaces = [] then [.noInterfaces] else []) ∧
        (.noInterfaces ∈ c.diagnostics ↔ c.api.interfaces = []) := by
  refine ⟨fun e he => compile_append_of_error he, fun a b ha hb => compile_append_of_new ha hb,
    fun a b name ha hb => compile_append_of_shared ha hb,
    fun a e ha he => exists_compile_append_error ha he, fun c hc => ?_⟩
  have hdiagnostics := diagnostics_of_compile hc
  refine ⟨hdiagnostics, ?_⟩
  have hnot : Diagnostic.noInterfaces ∉ c.reports := fun hmem =>
    absurd (List.mem_filter.1 hmem).2 (by decide)
  rw [hdiagnostics]
  split <;> simp [*]

/-- A source that declares one interface, with one property. -/
def batterySource (name : String) : Source where
  name := name
  content := "B hierarchy\n=\nInterface\tb.B\nProperties\tbyte P\n"

/-- Two sources that declare one interface compile each on its own, and not together. -/
theorem compile_append_batteries :
    (∃ a, compile ⟨.skipMalformed, []⟩ [batterySource "a.txt"] = .ok a) ∧
      (∃ b, compile ⟨.skipMalformed, []⟩ [batterySource "b.txt"] = .ok b) ∧
      compile ⟨.skipMalformed, []⟩ [batterySource "a.txt", batterySource "b.txt"] =
        .error (.assemble (.duplicateInterface "b.B" "a.txt" "b.txt")) := by
  have hnames (name : String) (h : name = "a.txt" ∨ name = "b.txt") :
      ∃ c, compile ⟨.skipMalformed, []⟩ [batterySource name] = .ok c ∧ c.api.names = ["b.B"] := by
    have hcompiled : (compile ⟨.skipMalformed, []⟩ [batterySource name]).toOption.map
        (fun c => c.api.names) = some ["b.B"] := by
      rcases h with rfl | rfl <;> decide +kernel
    cases hc : compile ⟨.skipMalformed, []⟩ [batterySource name] with
    | error e =>
      rw [hc] at hcompiled
      cases hcompiled
    | ok c =>
      rw [hc] at hcompiled
      exact ⟨c, rfl, Option.some.inj hcompiled⟩
  obtain ⟨a, ha, hanames⟩ := hnames "a.txt" (.inl rfl)
  obtain ⟨b, hb, hbnames⟩ := hnames "b.txt" (.inr rfl)
  refine ⟨⟨a, ha⟩, ⟨b, hb⟩, ?_⟩
  obtain ⟨-, -, hshared, -, -⟩ := compile_append ⟨.skipMalformed, []⟩ [batterySource "a.txt"]
    [batterySource "b.txt"]
  obtain ⟨s, hs, t, ht, -, -, herror⟩ := hshared a b "b.B" ha hb (by rw [hanames, hbnames]; rfl)
  rw [List.mem_singleton.1 hs, List.mem_singleton.1 ht] at herror
  exact herror

end BusDoc
