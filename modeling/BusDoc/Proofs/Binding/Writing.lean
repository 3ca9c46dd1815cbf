import BusDoc.Binding.Output
import BusDoc.Proofs.Binding.Places
import BusDoc.Proofs.Files.Growth

/-!
# Writing the files of a run

A run writes the module of every interface and then the list of every directory, each at a location
of its own. A file that is written, or that already has its text, is not touched again by the run.

* `moduleFiles_eq_ok`, `outputFiles_eq_ok`: the files of a run.
* `IsPlan.nodup_goals`: they lie at different locations, wherever the destination is.
* `writeFile_eq_ok`, `writeFiles_eq_ok`: after one file, and so after all of them, each holds its
  text and no other file has changed.
* `generate_eq_ok_iff`: a run that succeeds has written its files; `generate_eq_ok` says what they
  are and what that did to the tree.
-/

namespace BusDoc.Binding

open FileTree Result

/-! ## Files of a run -/

/-- The file holds the module of the placed interface. -/
structure IsModuleOf (o : RenderOptions) (p : Placed) (f : OutputFile) : Prop where
  location : f.location = p.path.file
  text : render o p.interface = .ok f.text

theorem moduleFiles_cons (o : RenderOptions) (p : Placed) (rest : List Placed) :
    moduleFiles o (p :: rest) = (do
      let text ← (render o p.interface).mapError (.render p.interface.name)
      let files ← moduleFiles o rest
      return ⟨p.path.file, text⟩ :: files) := by
  conv_lhs => unfold moduleFiles
  cases render o p.interface <;> rfl

theorem moduleFiles_eq_ok {o : RenderOptions} {placed : List Placed} {files : List OutputFile}
    (h : moduleFiles o placed = .ok files) : List.Forall₂ (IsModuleOf o) placed files := by
  induction placed generalizing files with
  | nil =>
    cases h
    exact .nil
  | cons p rest ih =>
    rw [moduleFiles_cons] at h
    obtain ⟨text, htext, h⟩ := bind_eq_ok.1 h
    obtain ⟨later, hlater, h⟩ := bind_eq_ok.1 h
    cases h
    exact .cons ⟨rfl, mapError_eq_ok.1 htext⟩ (ih hlater)

theorem outputFiles_eq_ok {o : RenderOptions} {interfaces : List Interface}
    {files : List OutputFile} (h : outputFiles o interfaces = .ok files) :
    ∃ placed modules, IsPlan interfaces placed ∧ List.Forall₂ (IsModuleOf o) placed modules ∧
      files = modules ++ listFiles (placed.map Placed.path) := by
  obtain ⟨placed, hplaced, h⟩ := bind_eq_ok.1 h
  obtain ⟨modules, hmodules, h⟩ := bind_eq_ok.1 h
  cases h
  exact ⟨placed, modules, plan_eq_ok hplaced, moduleFiles_eq_ok hmodules, rfl⟩

/-- The locations of the files of a run. -/
def locationsOf (paths : List ModulePath) : List Location :=
  paths.map ModulePath.file ++ (directoriesOf paths).map (· ++ [listFileName])

theorem map_location {o : RenderOptions} {placed : List Placed} {modules : List OutputFile}
    (h : List.Forall₂ (IsModuleOf o) placed modules) :
    (modules ++ listFiles (placed.map Placed.path)).map OutputFile.location =
      locationsOf (placed.map Placed.path) := by
  have hmodules : modules.map OutputFile.location = placed.map (ModulePath.file ∘ Placed.path) := by
    induction h with
    | nil => rfl
    | cons hp _ ih => rw [List.map_cons, List.map_cons, ih, hp.location, Function.comp_apply]
  rw [locationsOf, List.map_append, hmodules, List.map_map, listFiles, List.map_map]
  rfl

variable {interfaces : List Interface} {placed : List Placed}

theorem IsPlan.nodup_locations (h : IsPlan interfaces placed) :
    (locationsOf (placed.map Placed.path)).Nodup := by
  rw [locationsOf, List.nodup_append]
  refine ⟨h.nodup.map ModulePath.file_injective,
    (nodup_directoriesOf _).map fun d e hde => (List.append_singleton_inj.1 hde).1, ?_⟩
  intro l hl m hm
  rw [List.map_map, List.mem_map] at hl
  obtain ⟨p, hp, rfl⟩ := hl
  obtain ⟨d, -, rfl⟩ := List.mem_map.1 hm
  exact (h.wellFormed hp).file_ne d

theorem IsPlan.ne_dots (h : IsPlan interfaces placed) {l : Location}
    (hl : l ∈ locationsOf (placed.map Placed.path)) : ∀ s ∈ l, s ≠ "." ∧ s ≠ ".." := by
  rw [locationsOf, List.mem_append, List.map_map] at hl
  rcases hl with hl | hl
  · obtain ⟨p, hp, rfl⟩ := List.mem_map.1 hl
    exact (h.wellFormed hp).file_ne_dots
  · obtain ⟨d, hd, rfl⟩ := List.mem_map.1 hl
    intro s hs
    rcases List.mem_append.1 hs with hs | hs
    · exact (h.isModuleName_of_mem hd s hs).ne_dots
    · rw [List.mem_singleton.1 hs]
      decide

/-- The goals of the files of a run are different, wherever the destination lies. -/
theorem IsPlan.nodup_goals (h : IsPlan interfaces placed) (root : FilePath) :
    ((locationsOf (placed.map Placed.path)).map fun l => (root.below l).goal).Nodup := by
  refine List.Nodup.map_on ?_ h.nodup_locations
  intro l hl m hm e
  rw [root.goal_below (h.ne_dots hl), root.goal_below (h.ne_dots hm)] at e
  exact List.append_cancel_left e

/-! ## Writing -/

variable {skip : Bool} {root : FilePath} {t u : FileTree}

theorem read_of_upToDate {f : OutputFile} (h : upToDate t root f = .ok true) :
    t.read (root.below f.location) = .ok f.text := by
  unfold upToDate at h
  split at h
  next =>
    obtain ⟨s, hs, h⟩ := bind_eq_ok.1 h
    rw [hs, of_decide_eq_true (Except.ok.inj h)]
  next => cases h

/-- A file that was written or left alone holds its text, and no other file has changed. -/
theorem writeFile_eq_ok {f : OutputFile} {wrote : Bool}
    (h : writeFile skip root t f = (.ok wrote, u)) :
    Grows [(root.below f.location).goal] t u ∧ u.read (root.below f.location) = .ok f.text := by
  unfold writeFile at h
  split at h
  next => cases h
  next hskip =>
    cases h
    split at hskip
    next => exact ⟨(Grows.refl t).mono (by simp), read_of_upToDate hskip⟩
    next => cases hskip
  next =>
    split at h
    next => cases h
    next v hmade =>
      split at h
      next => cases h
      next w hwrite =>
        cases h
        exact ⟨(grows_makeDirectories hmade).trans (grows_write rfl hwrite), read_write rfl hwrite⟩

/-- What a run does to a tree: every file is in its report once and holds its text, and no other
file has changed. -/
structure Wrote (root : FilePath) (files : List OutputFile) (r : Report) (t u : FileTree) :
    Prop where
  perm : (r.written ++ r.unchanged).Perm (files.map OutputFile.location)
  grows : Grows (files.map fun f => (root.below f.location).goal) t u
  read : ∀ f ∈ files, u.read (root.below f.location) = .ok f.text

theorem writeFiles_eq_ok {files : List OutputFile} {r : Report}
    (hnodup : (files.map fun f => (root.below f.location).goal).Nodup)
    (h : writeFiles skip root t files = (.ok r, u)) : Wrote root files r t u := by
  induction files generalizing t r with
  | nil =>
    cases h
    exact ⟨.refl _, Grows.refl _, by simp⟩
  | cons f rest ih =>
    rw [List.map_cons, List.nodup_cons] at hnodup
    rw [writeFiles] at h
    split at h
    next => cases h
    next wrote v hfile =>
      split at h
      next => cases h
      next later w hrest =>
        cases h
        obtain ⟨hgrows, hread⟩ := writeFile_eq_ok hfile
        have hlater := ih hnodup.2 hrest
        refine ⟨?_, hgrows.trans hlater.grows, fun g hg => ?_⟩
        · split
          next => exact hlater.perm.cons f.location
          next => exact List.perm_middle.trans (hlater.perm.cons f.location)
        · rcases List.mem_cons.1 hg with rfl | hg
          · exact hlater.grows.read hread hnodup.1
          · exact hlater.read g hg

theorem generate_eq_ok_iff {o : GenerateOptions} {r : Report} :
    generate o interfaces root t = (.ok r, u) ↔
      ∃ files, outputFiles o.toRenderOptions interfaces = .ok files ∧
        writeFiles o.skipUnchanged root t files = (.ok r, u) := by
  unfold generate
  cases outputFiles o.toRenderOptions interfaces with
  | error e => simp
  | ok files =>
    rcases hwrite : writeFiles o.skipUnchanged root t files with ⟨_ | report, v⟩ <;>
      simp [hwrite]

theorem wrote_of_outputFiles {o : RenderOptions} {files : List OutputFile} {r : Report}
    (hfiles : outputFiles o interfaces = .ok files)
    (h : writeFiles skip root t files = (.ok r, u)) : Wrote root files r t u := by
  obtain ⟨placed, modules, hplan, hmodules, rfl⟩ := outputFiles_eq_ok hfiles
  refine writeFiles_eq_ok ?_ h
  have hnodup := hplan.nodup_goals root
  rwa [← map_location hmodules, List.map_map] at hnodup

theorem generate_eq_ok {o : GenerateOptions} {r : Report}
    (h : generate o interfaces root t = (.ok r, u)) :
    ∃ placed modules, IsPlan interfaces placed ∧
      List.Forall₂ (IsModuleOf o.toRenderOptions) placed modules ∧
      Wrote root (modules ++ listFiles (placed.map Placed.path)) r t u := by
  obtain ⟨files, hfiles, hwrite⟩ := generate_eq_ok_iff.1 h
  have hwrote := wrote_of_outputFiles hfiles hwrite
  obtain ⟨placed, modules, hplan, hmodules, rfl⟩ := outputFiles_eq_ok hfiles
  exact ⟨placed, modules, hplan, hmodules, hwrote⟩

end BusDoc.Binding
