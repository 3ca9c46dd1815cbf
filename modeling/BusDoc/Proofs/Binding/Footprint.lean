import BusDoc.Proofs.Binding.ModuleTree

/-!
# What a run touches

All that can be wrong with interfaces is found before the first file is written. The files are then
written one after the other, and nothing else in the tree changes but for the directories that
they lie in.

* `exists_outputFiles_iff`: which interfaces have files, said without the plan.
* `outputFiles_eq_render`: a fault is reported of an interface that has it.
* `fst_generate_iff`: a run reports a fault of the interfaces exactly if they have no files.
* `framedBy_writeFile`, `framedBy_writeFiles`: what writing can make different, also where it fails.
* `frame_writeFile`, `frame_writeFiles`: what it makes different where it succeeds.
* `generate_footprint`: the same of a whole run, and what it leaves in the files of the interfaces.
-/

namespace BusDoc.Binding

open FileTree Result

/-! ## Interfaces that have files -/

/-- Every interface has a place and a module, and no two places collide. -/
structure Generable (o : RenderOptions) (interfaces : List Interface) : Prop where
  placed : ∀ i ∈ interfaces, ∃ p, modulePath i.name = .ok p
  /-- No two interfaces share a file. -/
  apart : interfaces.Pairwise fun i j => modulePath i.name ≠ modulePath j.name
  /-- No file has the name of a directory that another one lies in. -/
  unshadowed : ∀ i ∈ interfaces, ∀ j ∈ interfaces, ∀ p q, modulePath i.name = .ok p →
    modulePath j.name = .ok q → ¬ p.asDirectory <+: q.directories
  rendered : ∀ i ∈ interfaces, ∃ s, render o i = .ok s

variable {o : RenderOptions} {interfaces : List Interface} {placed : List Placed}

theorem exists_placeAll (hplaced : ∀ i ∈ interfaces, ∃ p, modulePath i.name = .ok p)
    (hapart : interfaces.Pairwise fun i j => modulePath i.name ≠ modulePath j.name)
    (hfree : ∀ q ∈ placed, ∀ i ∈ interfaces, modulePath i.name ≠ .ok q.path) :
    ∃ others, placeAll placed interfaces = .ok others := by
  induction interfaces generalizing placed with
  | nil => exact ⟨[], rfl⟩
  | cons i rest ih =>
    obtain ⟨⟨path, hpath⟩, hrest⟩ := List.forall_mem_cons.1 hplaced
    obtain ⟨hi, hapart⟩ := List.pairwise_cons.1 hapart
    have hnone : placed.find? (fun p => decide (p.path = path)) = none := by
      rw [List.find?_eq_none]
      intro q hq e
      refine hfree q hq i List.mem_cons_self ?_
      rw [hpath, of_decide_eq_true e]
    have hfree' : ∀ q ∈ placed ++ [⟨path, i⟩], ∀ j ∈ rest, modulePath j.name ≠ .ok q.path := by
      intro q hq j hj
      rcases List.mem_append.1 hq with hq | hq
      · exact hfree q hq j (List.mem_cons_of_mem i hj)
      · rw [List.mem_singleton.1 hq, ← hpath]
        exact (hi j hj).symm
    obtain ⟨others, hothers⟩ := ih hrest hapart hfree'
    rw [placeAll, hpath]
    simp only [hnone, hothers]
    exact ⟨_, rfl⟩

theorem Generable.exists_plan (h : Generable o interfaces) :
    ∃ placed, plan interfaces = .ok placed := by
  have hfree : ∀ q ∈ ([] : List Placed), ∀ i ∈ interfaces, modulePath i.name ≠ .ok q.path :=
    fun _ hq => absurd hq List.not_mem_nil
  obtain ⟨placed, hplaced⟩ := exists_placeAll h.placed h.apart hfree
  obtain ⟨hinterfaces, hpaths, -⟩ := placeAll_eq_ok hplaced List.nodup_nil
  have hmem {p : Placed} (hp : p ∈ placed) : p.interface ∈ interfaces :=
    hinterfaces ▸ List.mem_map_of_mem hp
  have hnone : shadowing? placed = none := shadowing?_eq_none.2 fun p hp q hq =>
    h.unshadowed _ (hmem hp) _ (hmem hq) _ _ (hpaths p hp) (hpaths q hq)
  refine ⟨placed, bind_eq_ok.2 ⟨placed, hplaced, ?_⟩⟩
  rw [hnone]
  rfl

theorem exists_moduleFiles (h : ∀ p ∈ placed, ∃ s, render o p.interface = .ok s) :
    ∃ files, moduleFiles o placed = .ok files := by
  induction placed with
  | nil => exact ⟨[], rfl⟩
  | cons p rest ih =>
    obtain ⟨⟨s, hs⟩, hrest⟩ := List.forall_mem_cons.1 h
    obtain ⟨files, hfiles⟩ := ih hrest
    rw [moduleFiles_cons, hs, hfiles]
    exact ⟨_, rfl⟩

theorem IsPlan.exists_placed (h : IsPlan interfaces placed) {i : Interface} (hi : i ∈ interfaces) :
    ∃ p ∈ placed, p.interface = i ∧ modulePath i.name = .ok p.path := by
  rw [← h.interfaces_eq] at hi
  obtain ⟨p, hp, rfl⟩ := List.mem_map.1 hi
  exact ⟨p, hp, rfl, h.path p hp⟩

theorem IsPlan.generable {modules : List OutputFile} (h : IsPlan interfaces placed)
    (hmodules : List.Forall₂ (IsModuleOf o) placed modules) : Generable o interfaces where
  placed i hi := by
    obtain ⟨p, -, -, hpath⟩ := h.exists_placed hi
    exact ⟨p.path, hpath⟩
  apart := h.apart
  unshadowed i hi j hj p q hp hq := by
    obtain ⟨p', hp', -, hpath⟩ := h.exists_placed hi
    obtain ⟨q', hq', -, hqath⟩ := h.exists_placed hj
    rw [hp] at hpath
    rw [hq] at hqath
    cases hpath
    cases hqath
    exact h.unshadowed p' hp' q' hq'
  rendered i hi := by
    obtain ⟨p, hp, rfl, -⟩ := h.exists_placed hi
    obtain ⟨f, -, hf⟩ := exists_of_forall₂ hmodules hp
    exact ⟨f.text, hf.text⟩

theorem exists_outputFiles_iff :
    (∃ files, outputFiles o interfaces = .ok files) ↔ Generable o interfaces := by
  constructor
  · rintro ⟨files, hfiles⟩
    obtain ⟨placed, modules, hplan, hmodules, -⟩ := outputFiles_eq_ok hfiles
    exact hplan.generable hmodules
  · intro h
    obtain ⟨placed, hplaced⟩ := h.exists_plan
    have hrendered : ∀ p ∈ placed, ∃ s, render o p.interface = .ok s := by
      intro p hp
      refine h.rendered p.interface ?_
      rw [← (plan_eq_ok hplaced).interfaces_eq]
      exact List.mem_map_of_mem hp
    obtain ⟨modules, hmodules⟩ := exists_moduleFiles hrendered
    exact ⟨_, bind_eq_ok.2 ⟨placed, hplaced, bind_eq_ok.2 ⟨modules, hmodules, rfl⟩⟩⟩

/-! ## Faults of the interfaces -/

variable {root : FilePath} {t u : FileTree}

theorem generate_eq_error_iff {o : GenerateOptions} {e : GenerateError} :
    generate o interfaces root t = (.error (.generate e), u) ↔
      outputFiles o.toRenderOptions interfaces = .error e ∧ u = t := by
  unfold generate
  cases outputFiles o.toRenderOptions interfaces with
  | error e' => simp [eq_comm]
  | ok files =>
    rcases hwrite : writeFiles o.skipUnchanged root t files with ⟨fault | report, v⟩
    · -- a fault of the file tree is none of the interfaces
      have hne : Error.ofTreeFault fault ≠ .generate e := by
        unfold Error.ofTreeFault Error.ofFileFault
        split <;> exact nofun
      simp [hwrite, hne]
    · simp [hwrite]

theorem placeAll_eq_render {name : String} {fault : RenderFault}
    (h : placeAll placed interfaces = .error (.render name fault)) :
    ∃ i ∈ interfaces, i.name = name ∧ modulePath i.name = .error fault := by
  induction interfaces generalizing placed with
  | nil => cases h
  | cons i rest ih =>
    rw [placeAll] at h
    split at h
    next hpath =>
      cases h
      exact ⟨i, List.mem_cons_self, rfl, hpath⟩
    next =>
      split at h
      next => cases h
      next =>
        obtain h | ⟨others, -, h⟩ := bind_eq_error.1 h
        · obtain ⟨j, hj, hfault⟩ := ih h
          exact ⟨j, List.mem_cons_of_mem i hj, hfault⟩
        · cases h

theorem plan_eq_render {name : String} {fault : RenderFault}
    (h : plan interfaces = .error (.render name fault)) :
    ∃ i ∈ interfaces, i.name = name ∧ modulePath i.name = .error fault := by
  obtain h | ⟨placed, -, h⟩ := bind_eq_error.1 h
  · exact placeAll_eq_render h
  · split at h <;> cases h

theorem moduleFiles_eq_error {e : GenerateError} (h : moduleFiles o placed = .error e) :
    ∃ p ∈ placed, ∃ fault, render o p.interface = .error fault ∧
      e = .render p.interface.name fault := by
  induction placed with
  | nil => cases h
  | cons p rest ih =>
    rw [moduleFiles_cons] at h
    obtain h | ⟨text, -, h⟩ := bind_eq_error.1 h
    · obtain ⟨fault, hfault, rfl⟩ := mapError_eq_error.1 h
      exact ⟨p, List.mem_cons_self, fault, hfault, rfl⟩
    · obtain h | ⟨files, -, h⟩ := bind_eq_error.1 h
      · obtain ⟨q, hq, hfault⟩ := ih h
        exact ⟨q, List.mem_cons_of_mem p hq, hfault⟩
      · cases h

/-- An interface that is reported without a module has none, be it for its place. -/
theorem outputFiles_eq_render {name : String} {fault : RenderFault}
    (h : outputFiles o interfaces = .error (.render name fault)) :
    ∃ i ∈ interfaces, i.name = name ∧
      (modulePath i.name = .error fault ∨ render o i = .error fault) := by
  obtain h | ⟨placed, hplan, h⟩ := bind_eq_error.1 h
  · obtain ⟨i, hi, hname, hpath⟩ := plan_eq_render h
    exact ⟨i, hi, hname, .inl hpath⟩
  · obtain h | ⟨files, -, h⟩ := bind_eq_error.1 h
    · obtain ⟨p, hp, fault, hrender, he⟩ := moduleFiles_eq_error h
      cases he
      have hmem := List.mem_map_of_mem (f := Placed.interface) hp
      rw [(plan_eq_ok hplan).interfaces_eq] at hmem
      exact ⟨p.interface, hmem, rfl, .inr hrender⟩
    · cases h

theorem fst_generate_iff {o : GenerateOptions} :
    (∃ e, (generate o interfaces root t).1 = .error (.generate e)) ↔
      ¬ Generable o.toRenderOptions interfaces := by
  rw [← exists_outputFiles_iff, not_exists]
  constructor
  · rintro ⟨e, he⟩ files hfiles
    have herror := (generate_eq_error_iff.1 (Prod.ext he rfl)).1
    rw [hfiles] at herror
    cases herror
  · intro hnone
    cases hfiles : outputFiles o.toRenderOptions interfaces with
    | ok files => exact absurd hfiles (hnone files)
    | error e => exact ⟨e, congrArg Prod.fst (generate_eq_error_iff.2 ⟨hfiles, rfl⟩)⟩

/-- Interfaces that have no files are refused, and no file is touched. -/
theorem generate_of_not_generable {o : GenerateOptions}
    (h : ¬ Generable o.toRenderOptions interfaces) (root : FilePath) (t : FileTree) :
    ∃ e, generate o interfaces root t = (.error (.generate e), t) := by
  obtain ⟨e, he⟩ := fst_generate_iff.2 h
  exact ⟨e, Prod.ext he (generate_eq_error_iff.1 (Prod.ext he rfl)).2⟩

theorem not_generable_of_render {i : Interface} {fault : RenderFault} (hi : i ∈ interfaces)
    (h : render o i = .error fault) : ¬ Generable o interfaces := by
  intro hall
  obtain ⟨s, hs⟩ := hall.rendered i hi
  cases hs.symm.trans h

/-! ## Writing -/

/-- The trees differ only in the files at these locations below the destination, and in directories
that the paths to them lead through. -/
def FramedBy (root : FilePath) (files : List Location) (t u : FileTree) : Prop :=
  Frame (fun l => ∃ f ∈ files, (root.below f).parent.Crosses l)
    (fun l => ∃ f ∈ files, l = (root.below f).goal) t u

theorem FramedBy.mono {files more : List Location} (h : FramedBy root files t u)
    (hsub : files ⊆ more) : FramedBy root more t u := by
  refine Frame.mono h ?_ ?_
  · rintro l ⟨f, hf, hl⟩
    exact ⟨f, hsub hf, hl⟩
  · rintro l ⟨f, hf, hl⟩
    exact ⟨f, hsub hf, hl⟩

variable {skip : Bool}

/-- Whether it succeeds or not, writing a file leaves all but the file and the way to it as it
was. -/
theorem framedBy_writeFile {f : OutputFile} {r : Except FileFault Bool}
    (h : writeFile skip root t f = (r, u)) : FramedBy root [f.location] t u := by
  have hmakes {v : FileTree} {made : Except FileFault Unit}
      (hmade : t.makeDirectories (root.below f.location).parent = (made, v)) :
      FramedBy root [f.location] t v :=
    (frame_makeDirectories hmade).mono (fun l hl => ⟨_, List.mem_singleton_self _, hl⟩)
      fun _ => False.elim
  unfold writeFile at h
  split at h
  next =>
    cases h
    exact Frame.refl _ _ t
  next =>
    cases h
    exact Frame.refl _ _ t
  next =>
    split at h
    next v hmade =>
      cases h
      exact hmakes hmade
    next v hmade =>
      split at h
      next =>
        cases h
        exact hmakes hmade
      next w hwrite =>
        cases h
        have hfile : FramedBy root [f.location] v u :=
          (frame_write rfl hwrite).mono (fun _ => False.elim)
            fun l hl => ⟨_, List.mem_singleton_self _, hl⟩
        exact Frame.trans (hmakes hmade) hfile

theorem eq_of_writeFile_false {f : OutputFile} (h : writeFile skip root t f = (.ok false, u)) :
    u = t := by
  unfold writeFile at h
  split at h
  next => cases h
  next =>
    cases h
    rfl
  next =>
    split at h
    next => cases h
    next => split at h <;> cases h

theorem frame_writeFile {f : OutputFile} {wrote : Bool}
    (h : writeFile skip root t f = (.ok wrote, u)) :
    FramedBy root (if wrote then [f.location] else []) t u := by
  cases wrote with
  | true => exact framedBy_writeFile h
  | false =>
    rw [eq_of_writeFile_false h]
    exact Frame.refl _ _ t

theorem frame_writeFiles {files : List OutputFile} {r : Report}
    (h : writeFiles skip root t files = (.ok r, u)) : FramedBy root r.written t u := by
  induction files generalizing t r with
  | nil =>
    cases h
    exact Frame.refl _ _ _
  | cons f rest ih =>
    rw [writeFiles] at h
    split at h
    next => cases h
    next wrote v hfile =>
      split at h
      next => cases h
      next later w hrest =>
        cases h
        refine Frame.trans ((frame_writeFile hfile).mono ?_) ((ih hrest).mono ?_)
        · cases wrote <;> simp
        · cases wrote <;> simp

theorem framedBy_writeFiles {files : List OutputFile} {r : Except FileFault Report}
    (h : writeFiles skip root t files = (r, u)) :
    FramedBy root (files.map OutputFile.location) t u := by
  induction files generalizing t r with
  | nil =>
    cases h
    exact Frame.refl _ _ _
  | cons f rest ih =>
    rw [writeFiles] at h
    split at h
    next hfile =>
      cases h
      exact (framedBy_writeFile hfile).mono (by simp)
    next wrote v hfile =>
      have hfirst : FramedBy root ((f :: rest).map OutputFile.location) t v :=
        (framedBy_writeFile hfile).mono (by simp)
      split at h
      next hrest =>
        cases h
        exact Frame.trans hfirst ((ih hrest).mono (by simp))
      next later w hrest =>
        cases h
        exact Frame.trans hfirst ((ih hrest).mono (by simp))

/-! ## Runs -/

/-- Where all steps are names, the path to a file leads through the directories above it. -/
theorem above_of_crosses {f l : Location} (hroot : ∀ s ∈ root.steps, s ≠ "." ∧ s ≠ "..")
    (hf : ∀ s ∈ f, s ≠ "." ∧ s ≠ "..") (hne : f ≠ [])
    (h : (root.below f).parent.Crosses l) : l <+: root.steps ++ f ∧ l ≠ root.steps ++ f := by
  have hsteps : (root.below f).parent.steps = (root.steps ++ f).dropLast := rfl
  have hnames : ∀ s ∈ (root.below f).parent.steps, s ≠ "." ∧ s ≠ ".." := by
    intro s hs
    rw [hsteps] at hs
    rcases List.mem_append.1 (List.mem_of_mem_dropLast hs) with hs | hs
    · exact hroot s hs
    · exact hf s hs
  have hl := (FilePath.crosses_iff_of_names hnames).1 h
  rw [hsteps] at hl
  refine ⟨hl.trans (List.dropLast_prefix _), ?_⟩
  rintro rfl
  have hlength := hl.length_le
  have hpos := List.length_pos_of_ne_nil hne
  rw [List.length_dropLast, List.length_append] at hlength
  omega

theorem ne_nil_of_mem_locationsOf {paths : List ModulePath} {l : Location}
    (h : l ∈ locationsOf paths) : l ≠ [] := by
  rcases List.mem_append.1 h with h | h
  · obtain ⟨p, -, rfl⟩ := List.mem_map.1 h
    simp [ModulePath.file]
  · obtain ⟨d, -, rfl⟩ := List.mem_map.1 h
    simp

/-- After a run that succeeds, the file of an interface holds its module. -/
theorem exists_module_of_generate {o : GenerateOptions} {r : Report} {i : Interface}
    (h : generate o interfaces root t = (.ok r, u)) (hi : i ∈ interfaces) :
    ∃ p s, modulePath i.name = .ok p ∧ render o.toRenderOptions i = .ok s ∧
      p.file ∈ r.written ++ r.unchanged ∧ u.read (root.below p.file) = .ok s := by
  obtain ⟨placed, modules, hplan, hmodules, hwrote⟩ := generate_eq_ok h
  obtain ⟨p, hp, rfl, hpath⟩ := hplan.exists_placed hi
  obtain ⟨f, hf, hlocation, htext⟩ := exists_of_forall₂ hmodules hp
  have hmem := List.mem_append_left (listFiles (placed.map Placed.path)) hf
  refine ⟨p.path, f.text, hpath, htext, ?_, ?_⟩
  · rw [hwrote.perm.mem_iff, ← hlocation]
    exact List.mem_map_of_mem hmem
  · rw [← hlocation]
    exact hwrote.read f hmem

/-- **The footprint of a run.** A run reports a fault of the interfaces exactly if one of them has
no place or no module or if two places collide, and then it has not touched the tree. A run that
succeeds leaves in the file of each interface the module that is rendered for it. Any other file is
as it was, unless it is in the report as written; no file appears or goes, and no directory goes.
The new directories lie on the way to the written files; if the destination is given by names
alone, these are the directories above them. -/
theorem generate_footprint (o : GenerateOptions) (interfaces : List Interface) (root : FilePath)
    (t : FileTree) :
    ((∃ e, (generate o interfaces root t).1 = .error (.generate e)) ↔
      ¬ Generable o.toRenderOptions interfaces) ∧
    (∀ e u, generate o interfaces root t = (.error (.generate e), u) → u = t) ∧
    ∀ r u, generate o interfaces root t = (.ok r, u) →
      (∀ i ∈ interfaces, ∃ p s, modulePath i.name = .ok p ∧ render o.toRenderOptions i = .ok s ∧
        p.file ∈ r.written ++ r.unchanged ∧ u.read (root.below p.file) = .ok s) ∧
      (∀ l, (∀ f ∈ r.written, l ≠ (root.below f).goal) →
        ∀ c, u.node? l = some (.file c) ↔ t.node? l = some (.file c)) ∧
      (∀ l, t.node? l = some .directory → u.node? l = some .directory) ∧
      ∀ l, u.node? l = some .directory → t.node? l ≠ some .directory →
        t.node? l = none ∧ (∃ f ∈ r.written, (root.below f).parent.Crosses l) ∧
        ((∀ s ∈ root.steps, s ≠ "." ∧ s ≠ "..") →
          ∃ f ∈ r.written, l <+: root.steps ++ f ∧ l ≠ root.steps ++ f) := by
  refine ⟨fst_generate_iff, fun e u h => (generate_eq_error_iff.1 h).2, fun r u h => ?_⟩
  obtain ⟨files, -, hwrite⟩ := generate_eq_ok_iff.1 h
  have hframe := frame_writeFiles hwrite
  obtain ⟨placed, modules, hplan, hmodules, hwrote⟩ := generate_eq_ok h
  have hperm : (r.written ++ r.unchanged).Perm (locationsOf (placed.map Placed.path)) :=
    map_location hmodules ▸ hwrote.perm
  refine ⟨fun i hi => exists_module_of_generate h hi,
    fun l hl c => (hframe l).file_iff (by simpa using hl) c,
    fun l hl => (hl ▸ hframe l).of_directory, fun l hl hnew => ?_⟩
  obtain ⟨hnone, hmade⟩ := (hl ▸ hframe l).of_made hnew
  refine ⟨hnone, hmade, fun hroot => ?_⟩
  obtain ⟨f, hf, hcross⟩ := hmade
  have hmem := hperm.mem_iff.1 (List.mem_append_left _ hf)
  exact ⟨f, hf, above_of_crosses hroot (hplan.ne_dots hmem) (ne_nil_of_mem_locationsOf hmem)
    hcross⟩

/-- A tree in which the destination holds a file that no run has written. -/
def notedTree : FileTree :=
  (FileTree.empty.put ["out"] .directory).put ["out", "notes.txt"] (.file (.text "kept\n"))

/-- Two interfaces whose modules would share a file. -/
def sharedPlace : List Interface := [{ name := "org.Door" }, { name := "org.door" }]

theorem generate_footprint_notedTree :
    (generate {} sharedPlace (FilePath.ofText "out") notedTree).2 = notedTree ∧
      ∃ r u, generate {} nestedInterfaces (FilePath.ofText "out") notedTree = (.ok r, u) ∧
        u.node? ["out", "notes.txt"] = some (.file (.text "kept\n")) := by
  constructor
  · have hfails : (generate {} sharedPlace (FilePath.ofText "out") notedTree).1 =
        .error (.generate (.outputCollision "org/door.rs" "org.Door" "org.door")) := by
      decide +kernel
    exact (generate_footprint {} sharedPlace (FilePath.ofText "out") notedTree).2.1 _ _
      (Prod.ext hfails rfl)
  · have hok : (generate {} nestedInterfaces (FilePath.ofText "out") notedTree).1.map
        Report.written = .ok [["org", "example", "player1.rs"],
          ["org", "example", "type_", "track.rs"], ["mod.rs"], ["org", "mod.rs"],
          ["org", "example", "mod.rs"], ["org", "example", "type_", "mod.rs"]] := by
      decide +kernel
    rcases hrun : generate {} nestedInterfaces (FilePath.ofText "out") notedTree with ⟨_ | r, u⟩
    · rw [hrun] at hok
      cases hok
    · rw [hrun] at hok
      refine ⟨r, u, rfl, ?_⟩
      refine (((generate_footprint {} nestedInterfaces _ notedTree).2.2 r u hrun).2.1
        ["out", "notes.txt"] ?_ _).2 (by decide)
      rw [Except.ok.inj hok]
      decide

end BusDoc.Binding
