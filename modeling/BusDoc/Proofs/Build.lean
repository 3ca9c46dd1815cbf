import BusDoc.Build
import BusDoc.Proofs.Binding.Permutation
import BusDoc.Proofs.Binding.Regeneration
import BusDoc.Proofs.Corpus.Discovery

/-!
# What a whole run does

A run reads the documentation, writes the interfaces out if it is asked to, and generates their
modules. It is known from these three steps: the first one touches nothing, the second one writes
one file, and the third one is kept to the files of the interfaces.

* `build_eq_ok_iff`, `build_eq_error_iff`: the ways in which a run ends.
* `compileSettings_eq_ok_iff`: what is compiled are the documents below the source root.
* `exportApi_eq_ok`: the file for the interfaces.
* `frame_build`: what a run can make different, also where it fails.
* `build_outcome`: what is compiled, what a run keeps, and what is there after it.
* `exists_build_iff`: when a run into an empty destination succeeds.
* `build_again`: a second run finds the same and changes nothing.
-/

namespace BusDoc

open Binding FileTree Result

variable {s : Settings} {t u v : FileTree} {b : Built} {compiled : Compiled} {api : Api}

/-! ## How a run ends -/

theorem build_eq_ok_iff :
    build s t = (.ok b, u) ↔
      compileSettings s t = .ok b.compiled ∧ ∃ v,
        exportApi b.compiled.api s.exportFile t = .ok v ∧
        generate s.generateOptions b.compiled.api.interfaces (.ofText s.outputRoot) v =
          (.ok b.report, u) := by
  unfold build
  cases compileSettings s t with
  | error e => simp
  | ok compiled =>
    dsimp only
    cases hexport : exportApi compiled.api s.exportFile t with
    | error fault =>
      simp only [Prod.mk.injEq, reduceCtorEq, false_and, false_iff, not_and, not_exists,
        Except.ok.injEq]
      rintro rfl v hv
      rw [hexport] at hv
      cases hv
    | ok v =>
      dsimp only
      constructor
      · intro h
        split at h
        next => cases h
        next hgenerate =>
          cases h
          exact ⟨rfl, v, hexport, hgenerate⟩
      · rintro ⟨hcompiled, v', hv, hgenerate⟩
        cases hcompiled
        rw [hexport] at hv
        cases hv
        rw [hgenerate]

theorem build_eq_error_iff {e : Error} :
    build s t = (.error e, u) ↔
      compileSettings s t = .error e ∧ u = t ∨
      ∃ compiled, compileSettings s t = .ok compiled ∧
        ((∃ fault, exportApi compiled.api s.exportFile t = .error fault ∧
            e = .ofTreeFault fault ∧ u = t) ∨
          ∃ v, exportApi compiled.api s.exportFile t = .ok v ∧
            generate s.generateOptions compiled.api.interfaces (.ofText s.outputRoot) v =
              (.error e, u)) := by
  unfold build
  cases compileSettings s t with
  | error e' => simp [eq_comm]
  | ok compiled =>
    cases hexport : exportApi compiled.api s.exportFile t with
    | error fault => simp [hexport, eq_comm]
    | ok v =>
      rcases hgenerate : generate s.generateOptions compiled.api.interfaces
        (.ofText s.outputRoot) v with ⟨_ | report, w⟩ <;> simp [hexport, hgenerate]

/-- A run whose documentation cannot be compiled leaves the tree as it was. -/
theorem build_of_error {e : Error} (h : compileSettings s t = .error e) :
    build s t = (.error e, t) := build_eq_error_iff.2 (.inl ⟨h, rfl⟩)

/-! ## What is compiled -/

theorem compileSettings_eq (s : Settings) (t : FileTree) :
    compileSettings s t = (discover t s.sourceRoot).outcome >>= fun _ =>
      compile s.compileOptions (discover t s.sourceRoot).sources := by
  unfold compileSettings addDirectory
  dsimp only
  cases (discover t s.sourceRoot).outcome <;> rfl

theorem compileSettings_eq_ok_iff :
    compileSettings s t = .ok compiled ↔
      ∃ dir docs, t.directory (.ofText s.sourceRoot) = .ok dir ∧ IsCorpus t dir docs ∧
        compile s.compileOptions (docs.map fun d => ⟨d.1.text, d.2⟩) = .ok compiled := by
  rw [compileSettings_eq, bind_eq_ok]
  constructor
  · rintro ⟨n, hn, h⟩
    obtain ⟨dir, docs, hdir, hdocs⟩ := exists_docs_of_discover hn
    rw [discover_eq hdir hdocs] at h
    exact ⟨dir, docs, hdir, documentsBelow_eq_iff.1 hdocs, h⟩
  · rintro ⟨dir, docs, hdir, hdocs, h⟩
    rw [discover_eq hdir (documentsBelow_eq_iff.2 hdocs)]
    exact ⟨docs.length, rfl, h⟩

/-! ## The file for the interfaces -/

/-- The location is that of the file for the interfaces. -/
def Settings.IsExport (s : Settings) (l : Location) : Prop :=
  ∃ path, s.exportFile = some path ∧ l = (FilePath.ofText path).goal

theorem exportApi_eq_ok (h : exportApi api s.exportFile t = .ok v) :
    Frame (fun _ => False) s.IsExport t v ∧
      ∀ path, s.exportFile = some path → v.read (.ofText path) = .ok api.toDocument := by
  unfold exportApi at h
  split at h
  next path hpath =>
    have hslash := slash_of_write h
    refine ⟨(frame_write hslash h).mono (fun _ => id) fun l hl => ⟨path, hpath, hl⟩, ?_⟩
    intro path' hpath'
    obtain rfl := Option.some.inj (hpath.symm.trans hpath')
    exact read_write hslash h
  next hnone =>
    cases h
    refine ⟨Frame.refl _ _ t, fun path hpath => ?_⟩
    rw [hnone] at hpath
    cases hpath

theorem exportApi_of_read
    (h : ∀ path, s.exportFile = some path → t.read (.ofText path) = .ok api.toDocument) :
    exportApi api s.exportFile t = .ok t := by
  unfold exportApi
  split
  next path hpath => exact write_of_read (h path hpath)
  next => rfl

/-! ## What a run touches -/

/-- The location is that of a module of the interfaces, or of a list of modules. -/
def Settings.IsGenerated (s : Settings) (interfaces : List Interface) (l : Location) : Prop :=
  ∃ f, IsOutputFile s.generateOptions.toRenderOptions interfaces f ∧
    l = ((FilePath.ofText s.outputRoot).below f.location).goal

theorem frame_generate {o : GenerateOptions} {interfaces : List Interface} {root : FilePath}
    {r : Except Error Report} (h : generate o interfaces root t = (r, u)) :
    Frame
      (fun l => ∃ f, IsOutputFile o.toRenderOptions interfaces f ∧
        (root.below f.location).parent.Crosses l)
      (fun l => ∃ f, IsOutputFile o.toRenderOptions interfaces f ∧
        l = (root.below f.location).goal) t u := by
  unfold generate at h
  split at h
  next =>
    cases h
    exact Frame.refl _ _ t
  next files hfiles =>
    have hmem {f : Location} (hf : f ∈ files.map OutputFile.location) :
        ∃ g, IsOutputFile o.toRenderOptions interfaces g ∧ g.location = f := by
      obtain ⟨g, hg, rfl⟩ := List.mem_map.1 hf
      exact ⟨g, (mem_outputFiles_iff hfiles).1 hg, rfl⟩
    have hframe : FramedBy root (files.map OutputFile.location) t u := by
      split at h
      next hwrite =>
        cases h
        exact framedBy_writeFiles hwrite
      next hwrite =>
        cases h
        exact framedBy_writeFiles hwrite
    refine Frame.mono hframe ?_ ?_
    · rintro l ⟨f, hf, hl⟩
      obtain ⟨g, hg, rfl⟩ := hmem hf
      exact ⟨g, hg, hl⟩
    · rintro l ⟨f, hf, hl⟩
      obtain ⟨g, hg, rfl⟩ := hmem hf
      exact ⟨g, hg, hl⟩

/-- Whatever comes of a run, it makes directories and writes files, no others than the one for the
interfaces and those that are generated. -/
theorem frame_build {r : Except Error Built} (hcompiled : compileSettings s t = .ok compiled)
    (h : build s t = (r, u)) :
    Frame (fun _ => True)
      (fun l => s.IsExport l ∨ s.IsGenerated compiled.api.interfaces l) t u := by
  have hruns {v : FileTree} {r : Except Error Report}
      (hexport : exportApi compiled.api s.exportFile t = .ok v)
      (hgenerate : generate s.generateOptions compiled.api.interfaces (.ofText s.outputRoot) v =
        (r, u)) :
      Frame (fun _ => True)
        (fun l => s.IsExport l ∨ s.IsGenerated compiled.api.interfaces l) t u := by
    have hfirst := (exportApi_eq_ok hexport).1
    exact (hfirst.mono (fun _ _ => trivial) fun l => .inl).trans
      ((frame_generate hgenerate).mono (fun _ _ => trivial) fun l => .inr)
  cases r with
  | error e =>
    obtain ⟨herror, -⟩ | ⟨compiled', hcompiled', ⟨_, -, -, rfl⟩ | ⟨v, hexport, hgenerate⟩⟩ :=
      build_eq_error_iff.1 h
    · cases hcompiled.symm.trans herror
    · exact Frame.refl _ _ _
    · cases hcompiled.symm.trans hcompiled'
      exact hruns hexport hgenerate
  | ok b =>
    obtain ⟨hcompiled', v, hexport, hgenerate⟩ := build_eq_ok_iff.1 h
    cases hcompiled.symm.trans hcompiled'
    exact hruns hexport hgenerate

/-- The name of the file for the interfaces ends neither as that of a document nor as that of a
module. -/
def Settings.ExportsApart (s : Settings) : Prop :=
  ∀ l name, s.IsExport l → l.getLast? = some name →
    ¬ ".txt".toList <:+ name.toList ∧ ¬ ".rs".toList <:+ name.toList

/-- What is generated has the ending of modules. -/
theorem Settings.IsGenerated.exists_rs {interfaces : List Interface} {l : Location}
    (h : s.IsGenerated interfaces l) : ∃ above c, l = above ++ [c ++ ".rs"] := by
  obtain ⟨f, hf, rfl⟩ := h
  obtain ⟨above, c, hlocation⟩ := hf.exists_rs
  have hlength : 3 ≤ (c ++ ".rs").toList.length := by simp
  have hne {name : String} (hname : name.toList.length < 3) : c ++ ".rs" ≠ name := by
    rintro rfl
    omega
  refine ⟨FilePath.goal ⟨(FilePath.ofText s.outputRoot).steps ++ above, false⟩, c, ?_⟩
  rw [hlocation, FilePath.below, ← List.append_assoc]
  exact FilePath.goal_concat (hne (by decide)) (hne (by decide))

theorem Settings.ExportsApart.not_isExport {interfaces : List Interface} {l : Location}
    (h : s.ExportsApart) (hl : s.IsGenerated interfaces l) : ¬ s.IsExport l := by
  obtain ⟨above, c, rfl⟩ := hl.exists_rs
  intro hexport
  exact (h _ _ hexport List.getLast?_concat).2 ⟨c.toList, by simp⟩

/-- Generating keeps the file for the interfaces. -/
theorem read_export_of_generate {interfaces : List Interface} {r : Report}
    (hapart : s.ExportsApart) (hexport : exportApi api s.exportFile t = .ok v)
    (h : generate s.generateOptions interfaces (.ofText s.outputRoot) v = (.ok r, u)) :
    ∀ path, s.exportFile = some path → u.read (.ofText path) = .ok api.toDocument := by
  intro path hpath
  obtain ⟨files, hfiles, hwrite⟩ := generate_eq_ok_iff.1 h
  refine (wrote_of_outputFiles hfiles hwrite).grows.read ((exportApi_eq_ok hexport).2 path hpath) ?_
  intro hgoal
  obtain ⟨f, hf, hgoal⟩ := List.mem_map.1 hgoal
  exact hapart.not_isExport ⟨f, (mem_outputFiles_iff hfiles).1 hf, hgoal.symm⟩ ⟨path, hpath, rfl⟩

/-! ## Runs -/

/-- **A whole run.** If the documentation cannot be read or compiled, the run fails with that error
and the tree is as it was. Otherwise what is compiled are the documents below the source root, in
the order of their locations; and whatever comes of the run, no directory goes, and no file changes,
appears or goes but the one for the interfaces and those that are generated. Interfaces that have no
modules end the run before one is written. A run that succeeds leaves the module of each interface
in its file and, if it is asked to, the interfaces in theirs. -/
theorem build_outcome (s : Settings) (t : FileTree) :
    (∀ e, compileSettings s t = .error e → build s t = (.error e, t)) ∧
    ∀ compiled, compileSettings s t = .ok compiled →
      (∃ dir docs, t.directory (.ofText s.sourceRoot) = .ok dir ∧ IsCorpus t dir docs ∧
        compile s.compileOptions (docs.map fun d => ⟨d.1.text, d.2⟩) = .ok compiled) ∧
      (∀ r u, build s t = (r, u) →
        (∀ l, t.node? l = some .directory → u.node? l = some .directory) ∧
        ∀ l, ¬ s.IsExport l → ¬ s.IsGenerated compiled.api.interfaces l →
          ∀ c, u.node? l = some (.file c) ↔ t.node? l = some (.file c)) ∧
      (∀ v, exportApi compiled.api s.exportFile t = .ok v →
        ¬ Generable s.generateOptions.toRenderOptions compiled.api.interfaces →
          ∃ e, build s t = (.error (.generate e), v)) ∧
      ∀ b u, build s t = (.ok b, u) →
        b.compiled = compiled ∧
        Generable s.generateOptions.toRenderOptions compiled.api.interfaces ∧
        (∀ i ∈ compiled.api.interfaces, ∃ p text, modulePath i.name = .ok p ∧
          render s.generateOptions.toRenderOptions i = .ok text ∧
          u.read ((FilePath.ofText s.outputRoot).below p.file) = .ok text) ∧
        (s.ExportsApart → ∀ path, s.exportFile = some path →
          u.read (.ofText path) = .ok compiled.api.toDocument) := by
  refine ⟨fun e => build_of_error, fun compiled hcompiled =>
    ⟨compileSettings_eq_ok_iff.1 hcompiled, fun r u h => ?_, fun v hexport hnone => ?_,
      fun b u h => ?_⟩⟩
  · have hframe := frame_build hcompiled h
    refine ⟨fun l hl => (hl ▸ hframe l).of_directory, fun l hexport hgenerated c => ?_⟩
    exact (hframe l).file_iff (not_or.2 ⟨hexport, hgenerated⟩) c
  · obtain ⟨e, he⟩ := generate_of_not_generable hnone (.ofText s.outputRoot) v
    exact ⟨e, build_eq_error_iff.2 (.inr ⟨compiled, hcompiled, .inr ⟨v, hexport, he⟩⟩)⟩
  · obtain ⟨hcompiled', v, hexport, hgenerate⟩ := build_eq_ok_iff.1 h
    obtain rfl : b.compiled = compiled := Except.ok.inj (hcompiled'.symm.trans hcompiled)
    obtain ⟨files, hfiles, -⟩ := generate_eq_ok_iff.1 hgenerate
    refine ⟨rfl, exists_outputFiles_iff.1 ⟨files, hfiles⟩, fun i hi => ?_, fun hapart =>
      read_export_of_generate hapart hexport hgenerate⟩
    obtain ⟨p, text, hp, htext, -, hread⟩ := exists_module_of_generate hgenerate hi
    exact ⟨p, text, hp, htext, hread⟩

/-- A run that compiles and exports succeeds in an empty destination if the interfaces have modules
and each of the files can be written. -/
theorem exists_build_iff (hcompiled : compileSettings s t = .ok compiled)
    (hexport : exportApi compiled.api s.exportFile t = .ok v)
    (hempty : IsEmptyAt (.ofText s.outputRoot) v) :
    (∃ b u, build s t = (.ok b, u)) ↔
      Generable s.generateOptions.toRenderOptions compiled.api.interfaces ∧
        ∀ f, IsOutputFile s.generateOptions.toRenderOptions compiled.api.interfaces f →
          v.Writable ((FilePath.ofText s.outputRoot).below f.location) := by
  rw [← exists_generate_iff hempty]
  constructor
  · rintro ⟨b, u, h⟩
    obtain ⟨hcompiled', v', hexport', hgenerate⟩ := build_eq_ok_iff.1 h
    cases hcompiled.symm.trans hcompiled'
    cases hexport.symm.trans hexport'
    exact ⟨b.report, u, hgenerate⟩
  · rintro ⟨r, u, h⟩
    have hrun : build s t = (.ok ⟨compiled, r⟩, u) := build_eq_ok_iff.2 ⟨hcompiled, v, hexport, h⟩
    exact ⟨_, u, hrun⟩

/-- No name has the ending of documents and that of modules. -/
theorem not_rs_of_txt {name : List Char} (h : ".txt".toList <:+ name) :
    ¬ ".rs".toList <:+ name := by
  rintro ⟨back, hback⟩
  obtain ⟨front, rfl⟩ := h
  have hlast := congrArg List.getLast? hback
  simp at hlast

theorem exists_txt_of_extension? (dir : Location) {l : Location} (h : l.extension? = some "txt") :
    ∃ name, (dir ++ l).getLast? = some name ∧ ".txt".toList <:+ name.toList := by
  have hending : (dir ++ l).extension? = some "txt" :=
    (Location.extension?_append (Location.ne_nil_of_extension? h)).trans h
  obtain ⟨name, stem, hlast, -, -, hname, -⟩ := Location.extension?_eq_some_iff.1 hending
  exact ⟨name, hlast, stem, hname.symm⟩

/-- **A run once more.** If unchanged files are left alone and the name of the file for the
interfaces has neither the ending of documents nor that of modules, then after a run that succeeds a
second one compiles the same, writes nothing and leaves the tree as it is. -/
theorem build_again (hskip : s.skipUnchanged = true) (hapart : s.ExportsApart)
    (h : build s t = (.ok b, u)) :
    ∃ r, build s u = (.ok ⟨b.compiled, r⟩, u) ∧ r.written = [] ∧ r.total = b.report.total := by
  obtain ⟨hcompiled, v, hexport, hgenerate⟩ := build_eq_ok_iff.1 h
  have hframe := frame_build hcompiled h
  have hdirectories {l : Location} (hl : t.node? l = some .directory) :
      u.node? l = some .directory := (hl ▸ hframe l).of_directory
  obtain ⟨dir, docs, hdir, hdocs, hcompile⟩ := compileSettings_eq_ok_iff.1 hcompiled
  -- nothing that the run writes is a document
  have hdocs' : IsCorpus u dir docs := hdocs.of_files fun l hl c => by
    obtain ⟨name, hname, htxt⟩ := exists_txt_of_extension? dir hl
    refine (hframe _).file_iff ?_ c
    rintro (hexported | hgenerated)
    · exact (hapart _ _ hexported hname).1 htxt
    · obtain ⟨above, c, hl⟩ := hgenerated.exists_rs
      rw [hl, List.getLast?_concat, Option.some.injEq] at hname
      subst hname
      exact not_rs_of_txt htxt ⟨c.toList, by simp⟩
  have hcompiled' : compileSettings s u = .ok b.compiled := compileSettings_eq_ok_iff.2
    ⟨dir, docs, directory_of_directories hdirectories hdir, hdocs', hcompile⟩
  have hexport' : exportApi b.compiled.api s.exportFile u = .ok u :=
    exportApi_of_read (read_export_of_generate hapart hexport hgenerate)
  have hskips : { s.generateOptions with skipUnchanged := true } = s.generateOptions := by
    rw [← hskip]
    rfl
  obtain ⟨files, -, htotal, hagain⟩ := exists_generate_again hgenerate
  rw [hskips] at hagain
  have hrun : build s u = (.ok ⟨b.compiled, ⟨[], files.map OutputFile.location⟩⟩, u) :=
    build_eq_ok_iff.2 ⟨hcompiled', u, hexport', hagain⟩
  refine ⟨_, hrun, rfl, ?_⟩
  rw [htotal, Report.total, List.length_map]
  exact Nat.zero_add _

/-- Documentation of one interface, in a directory of its own. -/
def agentTree : FileTree :=
  (FileTree.empty.put ["doc"] .directory).put ["doc", "agent.txt"] (.file (.text
    "Agent\n=====\n\nService\torg.m\nInterface\torg.m.Agent1\n\nMethods\tvoid Release()\n"))

/-- Settings that ask for the interfaces as well. -/
def agentSettings : Settings := { exportFile := some "api.json" }

theorem exportsApart_agentSettings : agentSettings.ExportsApart := by
  rintro l name ⟨path, hpath, rfl⟩ hname
  cases hpath
  obtain rfl : "api.json" = name := Option.some.inj hname
  decide

/-- One module and the lists of three directories, left alone the second time. -/
theorem build_again_agentSettings :
    ∃ b u, build agentSettings agentTree = (.ok b, u) ∧ b.report.total = 4 ∧
      ∃ r, build agentSettings u = (.ok ⟨b.compiled, r⟩, u) ∧ r.written = [] ∧ r.total = 4 := by
  have hok : (build agentSettings agentTree).1.map (fun b => b.report.total) = .ok 4 := by
    decide +kernel
  rcases hrun : build agentSettings agentTree with ⟨_ | b, u⟩
  · rw [hrun] at hok
    cases hok
  · rw [hrun] at hok
    have htotal : b.report.total = 4 := Except.ok.inj hok
    obtain ⟨r, hagain, hwritten, hr⟩ := build_again rfl exportsApart_agentSettings hrun
    exact ⟨b, u, rfl, htotal, r, hagain, hwritten, hr.trans htotal⟩

end BusDoc
