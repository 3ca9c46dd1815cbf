import BusDoc.Proofs.Binding.ModuleTree

/-!
# Generating again

After a run, every file of the run holds its text. A run that leaves files alone whose text would
not change then has nothing to do.

* `upToDate_of_read`, `writeFile_of_read`: a file that holds its text is left alone.
* `writeFiles_of_read`: so are all files of a run, and they are reported in their order.
* `exists_generate_again`: so a second run changes nothing.
* `generate_again`: the same, with what it reports.
-/

namespace BusDoc.Binding

variable {root : FilePath} {t u : FileTree}

/-! ## Files that hold their text -/

theorem occupied_of_read {p : FilePath} {s : String} (h : t.read p = .ok s) :
    t.occupied p = true := by
  obtain ⟨l, hl, -⟩ := Result.bind_eq_ok.1 h
  rw [FileTree.occupied, hl]
  rfl

theorem upToDate_of_read {f : OutputFile} (h : t.read (root.below f.location) = .ok f.text) :
    upToDate t root f = .ok true := by
  rw [upToDate, if_pos (occupied_of_read h), h]
  exact congrArg Except.ok (decide_eq_true rfl)

theorem writeFile_of_read {f : OutputFile} (h : t.read (root.below f.location) = .ok f.text) :
    writeFile true root t f = (.ok false, t) := by
  rw [writeFile, if_pos rfl, upToDate_of_read h]

theorem writeFiles_of_read {files : List OutputFile}
    (h : ∀ f ∈ files, t.read (root.below f.location) = .ok f.text) :
    writeFiles true root t files = (.ok ⟨[], files.map OutputFile.location⟩, t) := by
  induction files with
  | nil => rfl
  | cons f rest ih =>
    obtain ⟨hf, hrest⟩ := List.forall_mem_cons.1 h
    rw [writeFiles, writeFile_of_read hf]
    simp only [ih hrest, Bool.false_eq_true, if_false, List.map_cons]

/-! ## Runs -/

variable {interfaces : List Interface} {placed : List Placed}

theorem IsPlan.forall₂_modulePath (h : IsPlan interfaces placed) :
    List.Forall₂ (fun i p => modulePath i.name = .ok p) interfaces (placed.map Placed.path) := by
  rw [← h.interfaces_eq, List.forall₂_map_left_iff, List.forall₂_map_right_iff]
  exact List.forall₂_same.2 h.path

theorem Wrote.total_eq {files : List OutputFile} {r : Report} (h : Wrote root files r t u) :
    r.total = files.length := by
  have hlength := h.perm.length_eq
  rwa [List.length_append, List.length_map] at hlength

theorem exists_generate_again {o : GenerateOptions} {r : Report}
    (h : generate o interfaces root t = (.ok r, u)) :
    ∃ files, outputFiles o.toRenderOptions interfaces = .ok files ∧ r.total = files.length ∧
      generate { o with skipUnchanged := true } interfaces root u =
        (.ok ⟨[], files.map OutputFile.location⟩, u) := by
  obtain ⟨files, hfiles, hwrite⟩ := generate_eq_ok_iff.1 h
  have hwrote := wrote_of_outputFiles hfiles hwrite
  exact ⟨files, hfiles, hwrote.total_eq,
    generate_eq_ok_iff.2 ⟨files, hfiles, writeFiles_of_read hwrote.read⟩⟩

/-- **Generating again.** After a run that succeeds, a run that leaves unchanged files alone
succeeds as well, and the tree stays as it is. Nothing is written; left alone are, in this order,
the module of each interface and the list of each directory, as many files as the first run had. -/
theorem generate_again {o : GenerateOptions} {r : Report}
    (h : generate o interfaces root t = (.ok r, u)) :
    ∃ (paths : List ModulePath) (directories : List Location) (again : Report),
      List.Forall₂ (fun i p => modulePath i.name = .ok p) interfaces paths ∧
      directories.Pairwise (· < ·) ∧
      (∀ d, d ∈ directories ↔ IsModuleDirectory interfaces d) ∧
      generate { o with skipUnchanged := true } interfaces root u = (.ok again, u) ∧
      again.written = [] ∧
      again.unchanged = paths.map ModulePath.file ++ directories.map (· ++ [listFileName]) ∧
      again.total = r.total := by
  obtain ⟨files, hfiles, htotal, hagain⟩ := exists_generate_again h
  obtain ⟨placed, modules, hplan, hmodules, rfl⟩ := outputFiles_eq_ok hfiles
  refine ⟨placed.map Placed.path, directoriesOf (placed.map Placed.path), _,
    hplan.forall₂_modulePath, pairwise_sortUnique _, fun d => hplan.isModuleDirectory_iff.symm,
    hagain, rfl, map_location hmodules, ?_⟩
  rw [htotal, Report.total, List.length_map]
  exact Nat.zero_add _

/-- A tree in which the destination has an outdated list already. -/
def outdatedTree : FileTree :=
  (FileTree.empty.put ["out"] .directory).put ["out", "mod.rs"] (.file (.text "// old\n"))

theorem generate_again_nestedInterfaces :
    ∃ r u, generate { skipUnchanged := false } nestedInterfaces (FilePath.ofText "out")
        outdatedTree = (.ok r, u) ∧
      ∃ again, generate {} nestedInterfaces (FilePath.ofText "out") u = (.ok again, u) ∧
        again.written = [] ∧ again.total = 6 := by
  have hok : (generate { skipUnchanged := false } nestedInterfaces (FilePath.ofText "out")
      outdatedTree).1.map Report.total = .ok 6 := by decide +kernel
  rcases hrun : generate { skipUnchanged := false } nestedInterfaces (FilePath.ofText "out")
    outdatedTree with ⟨_ | r, u⟩
  · rw [hrun] at hok
    cases hok
  · rw [hrun] at hok
    obtain ⟨_, _, again, -, -, -, hagain, hwritten, -, htotal⟩ := generate_again hrun
    exact ⟨r, u, rfl, again, hagain, hwritten, htotal.trans (Except.ok.inj hok)⟩

end BusDoc.Binding
