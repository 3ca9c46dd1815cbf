import BusDoc.Proofs.Binding.Footprint
import BusDoc.Proofs.Files.Making

/-!
# Generating in any order

What a run writes does not depend on the order of the interfaces. Which files it has is said by
membership alone; whether a file can be written is read off the tree that the run starts from,
however many others were written before it; and what stands at a location afterwards is known from
the files of the run and the tree it started from.

* `mem_outputFiles_iff`: the files of a run, said without an order.
* `exists_writeFile_iff`: when a new file can be written.
* `exists_writeFiles_iff`: new files can be written one after the other if each of them can alone.
* `outcome_of_writeFiles`: what stands where after a run.
* `generate_perm`: a run on the interfaces in another order.
-/

namespace BusDoc.Binding

open FileTree Result

variable {o : RenderOptions} {interfaces others : List Interface} {placed : List Placed}
  {files : List OutputFile} {f : OutputFile}

/-! ## Files without an order -/

/-- The file holds the module of one of the interfaces. -/
def IsModule (o : RenderOptions) (interfaces : List Interface) (f : OutputFile) : Prop :=
  ∃ i ∈ interfaces, ∃ p, modulePath i.name = .ok p ∧ f.location = p.file ∧ render o i = .ok f.text

/-- The file lists the modules of a directory. -/
def IsList (interfaces : List Interface) (f : OutputFile) : Prop :=
  ∃ d names, IsModuleDirectory interfaces d ∧
    (∀ c, c ∈ names ↔
      IsModuleFile interfaces (d ++ [c ++ ".rs"]) ∨ IsModuleDirectory interfaces (d ++ [c])) ∧
    f = ⟨d ++ [listFileName], listText names⟩

theorem OutputFile.ext {g : OutputFile} (hlocation : f.location = g.location)
    (htext : f.text = g.text) : f = g := by
  cases f
  cases g
  cases hlocation
  cases htext
  rfl

/-- The file is one of a run: a module, or a list of modules. -/
def IsOutputFile (o : RenderOptions) (interfaces : List Interface) (f : OutputFile) : Prop :=
  IsModule o interfaces f ∨ IsList interfaces f

theorem IsPlan.mem_modules_iff {modules : List OutputFile} (h : IsPlan interfaces placed)
    (hmodules : List.Forall₂ (IsModuleOf o) placed modules) :
    f ∈ modules ↔ IsModule o interfaces f := by
  constructor
  · intro hf
    obtain ⟨p, hp, hmodule⟩ := exists_of_forall₂ hmodules.flip hf
    have hi : p.interface ∈ interfaces := h.interfaces_eq ▸ List.mem_map_of_mem hp
    exact ⟨p.interface, hi, p.path, h.path p hp, hmodule.location, hmodule.text⟩
  · rintro ⟨i, hi, path, hpath, hlocation, htext⟩
    obtain ⟨p, hp, rfl, hp'⟩ := h.exists_placed hi
    obtain ⟨g, hg, hmodule⟩ := exists_of_forall₂ hmodules hp
    rw [hpath] at hp'
    rw [hmodule.text] at htext
    have hgf : g = f := OutputFile.ext
      (by rw [hmodule.location, hlocation, Except.ok.inj hp']) (Except.ok.inj htext)
    exact hgf ▸ hg

theorem IsPlan.mem_listFiles_iff (h : IsPlan interfaces placed) :
    f ∈ listFiles (placed.map Placed.path) ↔ IsList interfaces f := by
  simp only [listFiles, List.mem_map, ← h.isModuleDirectory_iff]
  constructor
  · rintro ⟨d, hd, rfl⟩
    exact ⟨d, _, hd, fun c => h.mem_modulesIn_iff, rfl⟩
  · rintro ⟨d, names, hd, hnames, rfl⟩
    have heq : modulesIn (placed.map Placed.path) d = names :=
      NameSet.ext_mem fun c => h.mem_modulesIn_iff.trans (hnames c).symm
    exact ⟨d, hd, by rw [heq]⟩

theorem mem_outputFiles_iff (h : outputFiles o interfaces = .ok files) :
    f ∈ files ↔ IsOutputFile o interfaces f := by
  obtain ⟨placed, modules, hplan, hmodules, rfl⟩ := outputFiles_eq_ok h
  rw [IsOutputFile, List.mem_append, hplan.mem_modules_iff hmodules, hplan.mem_listFiles_iff]

/-- The files of a run have the ending of modules. -/
theorem IsOutputFile.exists_rs (h : IsOutputFile o interfaces f) :
    ∃ above c, f.location = above ++ [c ++ ".rs"] := by
  rcases h with ⟨i, -, p, -, hlocation, -⟩ | ⟨d, names, -, -, rfl⟩
  · exact ⟨p.directories, p.stem, hlocation⟩
  · exact ⟨d, "mod", rfl⟩

theorem isOutputFile_perm (hperm : interfaces.Perm others) :
    IsOutputFile o interfaces f ↔ IsOutputFile o others f := by
  simp only [IsOutputFile, IsModule, IsList, IsModuleDirectory, IsModuleFile, hperm.mem_iff]

theorem Generable.perm (hperm : interfaces.Perm others) (h : Generable o interfaces) :
    Generable o others where
  placed i hi := h.placed i (hperm.mem_iff.2 hi)
  apart := (hperm.pairwise_iff fun hne => hne.symm).1 h.apart
  unshadowed i hi j hj := h.unshadowed i (hperm.mem_iff.2 hi) j (hperm.mem_iff.2 hj)
  rendered i hi := h.rendered i (hperm.mem_iff.2 hi)

/-! ## New files -/

variable {skip : Bool} {root : FilePath} {t u : FileTree}

/-- Where no file stands there is nothing to compare, but a directory may be in the way. -/
theorem upToDate_of_new (hnew : ∀ c, t.node? (root.below f.location).goal ≠ some (.file c)) :
    upToDate t root f = .ok false ∨
      t.node? (root.below f.location).goal = some .directory ∧
        upToDate t root f = .error .isDirectory := by
  unfold upToDate occupied
  cases hfind : t.find (root.below f.location) with
  | error e => exact .inl rfl
  | ok l =>
    obtain ⟨hl, hnode⟩ := (find_eq_ok rfl).1 hfind
    obtain rfl := goal_of_locate hl
    have hdir : t.node? (root.below f.location).goal = some .directory := by
      cases hn : t.node? (root.below f.location).goal with
      | none => exact absurd hn hnode
      | some n =>
        cases n with
        | file c => exact absurd hn (hnew c)
        | directory => rfl
    refine .inr ⟨hdir, ?_⟩
    have hread : t.read (root.below f.location) = .error .isDirectory := by
      simp only [FileTree.read, hfind, bind, Except.bind, hdir]
    simp only [Except.isOk, Except.toBool, if_true, hread]
    rfl

theorem exists_writeFile_iff (hne : f.location ≠ [])
    (hnew : ∀ c, t.node? (root.below f.location).goal ≠ some (.file c)) :
    (∃ wrote u, writeFile skip root t f = (.ok wrote, u)) ↔
      t.Writable (root.below f.location) := by
  have hsteps : (root.below f.location).steps ≠ [] := by simp [FilePath.below, hne]
  have hcheck : (if skip then upToDate t root f else .ok false) = .ok false ∨
      t.node? (root.below f.location).goal = some .directory ∧
        (if skip then upToDate t root f else .ok false) = .error .isDirectory := by
    cases skip
    · exact .inl rfl
    · exact upToDate_of_new hnew
  unfold writeFile
  rcases hcheck with hcheck | ⟨hdir, hcheck⟩
  · rw [hcheck, writable_iff (c := .text f.text) hsteps rfl]
    dsimp only
    constructor
    · rintro ⟨wrote, u, h⟩
      split at h
      next => cases h
      next v hv =>
        split at h
        next => cases h
        next w hw => exact ⟨v, w, hv, hw⟩
    · rintro ⟨v, u, hv, hu⟩
      exact ⟨true, u, by simp only [hv, hu]⟩
  · rw [hcheck]
    refine iff_of_false (by simp) fun h => h.free hdir

/-! ## New files one after the other -/

/-- No file stands where the files are to be written, and their goals are different; the way to a
file leads through the goal of another one only if the way to that one does. -/
structure IsNew (root : FilePath) (t : FileTree) (files : List OutputFile) : Prop where
  ne_nil : ∀ f ∈ files, f.location ≠ []
  nodup : (files.map fun f => (root.below f.location).goal).Nodup
  crossed : ∀ f ∈ files, ∀ g ∈ files,
    (root.below g.location).parent.Crosses (root.below f.location).goal →
      (root.below f.location).parent.Crosses (root.below f.location).goal
  free : ∀ f ∈ files, ∀ c, t.node? (root.below f.location).goal ≠ some (.file c)

theorem file_iff_of_writeFile {wrote : Bool} {l : Location} {c : Content}
    (h : writeFile skip root t f = (.ok wrote, u)) (hl : l ≠ (root.below f.location).goal) :
    u.node? l = some (.file c) ↔ t.node? l = some (.file c) :=
  (framedBy_writeFile h l).file_iff (by simpa using hl) c

/-- After one of the files was written the others are new. -/
theorem IsNew.tail {wrote : Bool} (h : IsNew root t (f :: files))
    (hwrite : writeFile skip root t f = (.ok wrote, u)) : IsNew root u files := by
  have hnodup := List.nodup_cons.1 (List.map_cons ▸ h.nodup)
  have hmem {g : OutputFile} (hg : g ∈ files) : g ∈ f :: files := List.mem_cons_of_mem f hg
  constructor
  · exact fun g hg => h.ne_nil g (hmem hg)
  · exact hnodup.2
  · exact fun g hg k hk => h.crossed g (hmem hg) k (hmem hk)
  · intro g hg c
    have hne : (root.below g.location).goal ≠ (root.below f.location).goal := fun e =>
      hnodup.1 (e ▸ List.mem_map_of_mem hg)
    exact (file_iff_of_writeFile hwrite hne).not.2 (h.free g (hmem hg) c)

/-- After one of the files was written the others can be written if they could before. -/
theorem IsNew.writable_iff {wrote : Bool} {g : OutputFile} (h : IsNew root t (f :: files))
    (hwrite : writeFile skip root t f = (.ok wrote, u)) (hg : g ∈ files) :
    u.Writable (root.below g.location) ↔ t.Writable (root.below g.location) := by
  have hf : t.Writable (root.below f.location) :=
    (exists_writeFile_iff (h.ne_nil f List.mem_cons_self) (h.free f List.mem_cons_self)).1
      ⟨wrote, u, hwrite⟩
  have hmem := List.mem_cons_of_mem f hg
  have hclear : u.Clear (root.below g.location).parent ↔
      t.Clear (root.below g.location).parent := by
    refine forall₂_congr fun l hl => forall_congr' fun c => (file_iff_of_writeFile hwrite ?_).not
    rintro rfl
    exact hf.apart (h.crossed f List.mem_cons_self g hmem hl)
  have hdirectory (hapart : ¬ (root.below g.location).parent.Crosses (root.below g.location).goal) :
      u.node? (root.below g.location).goal = some .directory ↔
        t.node? (root.below g.location).goal = some .directory := by
    have hframe := framedBy_writeFile hwrite (root.below g.location).goal
    refine ⟨fun hu => ?_, fun ht => (ht ▸ hframe).of_directory⟩
    by_contra ht
    obtain ⟨-, m, hm, hcross⟩ := (hu ▸ hframe).of_made ht
    rw [List.mem_singleton.1 hm] at hcross
    exact hapart (h.crossed g hmem f List.mem_cons_self hcross)
  constructor
  · exact fun hu => { hu with
      clear := hclear.1 hu.clear
      free := mt (hdirectory hu.apart).2 hu.free }
  · exact fun ht => { ht with
      clear := hclear.2 ht.clear
      free := mt (hdirectory ht.apart).1 ht.free }

/-- New files can be written one after the other if each of them can be written alone. -/
theorem exists_writeFiles_iff (h : IsNew root t files) :
    (∃ r u, writeFiles skip root t files = (.ok r, u)) ↔
      ∀ f ∈ files, t.Writable (root.below f.location) := by
  induction files generalizing t with
  | nil => simp [writeFiles]
  | cons f rest ih =>
    have hfirst : (∃ wrote u, writeFile skip root t f = (.ok wrote, u)) ↔ _ :=
      exists_writeFile_iff (h.ne_nil f List.mem_cons_self) (h.free f List.mem_cons_self)
    rw [List.forall_mem_cons, ← hfirst]
    constructor
    · rintro ⟨r, u, hrun⟩
      rw [writeFiles] at hrun
      split at hrun
      next => cases hrun
      next wrote v hfile =>
        split at hrun
        next => cases hrun
        next later w hrest =>
          refine ⟨⟨wrote, v, hfile⟩, fun g hg => (h.writable_iff hfile hg).1 ?_⟩
          exact (ih (h.tail hfile)).1 ⟨later, w, hrest⟩ g hg
    · rintro ⟨⟨wrote, v, hfile⟩, hrest⟩
      obtain ⟨r, u, hrun⟩ := (ih (h.tail hfile)).2 fun g hg =>
        (h.writable_iff hfile hg).2 (hrest g hg)
      simp only [writeFiles, hfile, hrun]
      exact ⟨_, u, rfl⟩

/-! ## Trees after a run -/

theorem IsPlan.isModuleName_above (h : IsPlan interfaces placed) {l : Location}
    (hl : l ∈ locationsOf (placed.map Placed.path)) : ∀ s ∈ l.dropLast, IsModuleName s.toList := by
  rw [locationsOf, List.mem_append, List.map_map] at hl
  rcases hl with hl | hl
  · obtain ⟨p, hp, rfl⟩ := List.mem_map.1 hl
    simp only [Function.comp_apply, ModulePath.file, List.dropLast_concat]
    exact (h.wellFormed hp).directories
  · obtain ⟨d, hd, rfl⟩ := List.mem_map.1 hl
    rw [List.dropLast_concat]
    exact h.isModuleName_of_mem hd

theorem exists_rs_of_mem_locationsOf {paths : List ModulePath} {l : Location}
    (hl : l ∈ locationsOf paths) : ∃ above c, l = above ++ [c ++ ".rs"] := by
  rcases List.mem_append.1 hl with hl | hl
  · obtain ⟨p, -, rfl⟩ := List.mem_map.1 hl
    exact ⟨p.directories, p.stem, rfl⟩
  · obtain ⟨d, -, rfl⟩ := List.mem_map.1 hl
    exact ⟨d, "mod", rfl⟩

/-- The locations of files end in names with a dot, which no directory of modules has. -/
theorem IsPlan.not_prefix_dropLast (h : IsPlan interfaces placed) {l m : Location}
    (hl : l ∈ locationsOf (placed.map Placed.path))
    (hm : m ∈ locationsOf (placed.map Placed.path)) : ¬ l <+: m.dropLast := by
  obtain ⟨above, c, rfl⟩ := exists_rs_of_mem_locationsOf hl
  intro hdirectory
  have hlast : c ++ ".rs" ∈ above ++ [c ++ ".rs"] := by simp
  have hname := h.isModuleName_above hm _ (hdirectory.subset hlast)
  exact absurd (hname.chars '.' (by simp)) (by decide)

/-- Where the way to one file leads through the goal of another, this is so because of the way to
the destination. -/
theorem IsPlan.crosses_goal (h : IsPlan interfaces placed) {l m : Location}
    (hl : l ∈ locationsOf (placed.map Placed.path)) (hm : m ∈ locationsOf (placed.map Placed.path))
    (hcross : (root.below m).parent.Crosses (root.below l).goal) :
    (root.below l).parent.Crosses (root.below l).goal := by
  have hparent {k : Location} (hk : k ∈ locationsOf (placed.map Placed.path)) :
      (root.below k).parent.steps = root.steps ++ k.dropLast :=
    List.dropLast_append_of_ne_nil (ne_nil_of_mem_locationsOf hk)
  obtain ⟨way, hway, hgoal⟩ := hcross
  rw [hparent hm] at hway
  rcases List.prefix_or_prefix_of_prefix hway (List.prefix_append _ _) with hroot | ⟨e, rfl⟩
  · exact ⟨way, by rw [hparent hl]; exact hroot.trans (List.prefix_append _ _), hgoal⟩
  · have he : e <+: m.dropLast := (List.prefix_append_right_inj _).1 hway
    have hnames : ∀ s ∈ e, s ≠ "." ∧ s ≠ ".." := fun s hs =>
      h.ne_dots hm s (List.mem_of_mem_dropLast (he.subset hs))
    have hgoal' : root.goal ++ l = root.goal ++ e :=
      (root.goal_below (h.ne_dots hl)).symm.trans (hgoal.trans (root.goal_below hnames))
    rw [List.append_cancel_left hgoal'] at hl
    exact absurd he (h.not_prefix_dropLast hl hm)

theorem location_mem_of_mem {modules : List OutputFile}
    (hmodules : List.Forall₂ (IsModuleOf o) placed modules)
    (hf : f ∈ modules ++ listFiles (placed.map Placed.path)) :
    f.location ∈ locationsOf (placed.map Placed.path) := by
  rw [← map_location hmodules]
  exact List.mem_map_of_mem hf

/-- Nothing lies below the location that the path leads to. -/
def IsEmptyAt (root : FilePath) (t : FileTree) : Prop :=
  ∀ l, root.goal <+: l → l ≠ root.goal → t.node? l = none

/-- The files of a run are new in an empty destination. -/
theorem isNew_of_outputFiles (hfiles : outputFiles o interfaces = .ok files)
    (hempty : IsEmptyAt root t) : IsNew root t files := by
  obtain ⟨placed, modules, h, hmodules, rfl⟩ := outputFiles_eq_ok hfiles
  have hmem {f : OutputFile} := location_mem_of_mem (f := f) hmodules
  constructor
  · exact fun f hf => ne_nil_of_mem_locationsOf (hmem hf)
  · have hnodup := h.nodup_goals root
    rwa [← map_location hmodules, List.map_map] at hnodup
  · exact fun f hf g hg => h.crosses_goal (hmem hf) (hmem hg)
  · intro f hf c
    have hgoal := root.goal_below (h.ne_dots (hmem hf))
    have hnone : t.node? (root.below f.location).goal = none := by
      refine hempty _ ?_ ?_
      · rw [hgoal]
        exact List.prefix_append _ _
      · rw [hgoal]
        simpa using ne_nil_of_mem_locationsOf (hmem hf)
    simp [hnone]

/-- What stands where after a run is known from its files and the tree before it. -/
structure Outcome (root : FilePath) (files : List OutputFile) (t u : FileTree) : Prop where
  file : ∀ f ∈ files, u.node? (root.below f.location).goal = some (.file (.text f.text))
  directory : ∀ f ∈ files, ∀ l, (root.below f.location).parent.Crosses l →
    u.node? l = some .directory
  other : ∀ l, (∀ f ∈ files, l ≠ (root.below f.location).goal ∧
    ¬ (root.below f.location).parent.Crosses l) → u.node? l = t.node? l

theorem ne_nil_of_outputFiles (h : outputFiles o interfaces = .ok files) (hf : f ∈ files) :
    f.location ≠ [] := by
  obtain ⟨placed, modules, -, hmodules, rfl⟩ := outputFiles_eq_ok h
  exact ne_nil_of_mem_locationsOf (location_mem_of_mem hmodules hf)

theorem outcome_of_writeFiles {r : Report} (hfiles : outputFiles o interfaces = .ok files)
    (h : writeFiles skip root t files = (.ok r, u)) : Outcome root files t u := by
  have hwrote := wrote_of_outputFiles hfiles h
  have hlocate {f : OutputFile} (hf : f ∈ files) :
      u.locate (root.below f.location) = .ok (root.below f.location).goal ∧
        u.node? (root.below f.location).goal = some (.file (.text f.text)) := by
    obtain ⟨-, l, hl, hnode⟩ := read_eq_ok.1 (hwrote.read f hf)
    obtain rfl := goal_of_locate hl
    exact ⟨hl, hnode⟩
  constructor
  · exact fun f hf => (hlocate hf).2
  · intro f hf
    have hsteps : (root.below f.location).steps ≠ [] :=
      List.append_ne_nil_of_right_ne_nil _ (ne_nil_of_outputFiles hfiles hf)
    exact ((locate_eq_ok_iff hsteps).1 (hlocate hf).1).2.2
  · intro l hl
    have hframe : FramedBy root (files.map OutputFile.location) t u :=
      (frame_writeFiles h).mono fun m hm => hwrote.perm.mem_iff.1 (List.mem_append_left _ hm)
    refine (hframe l).eq_of_not ?_ ?_
    · rintro ⟨m, hm, hcross⟩
      obtain ⟨f, hf, rfl⟩ := List.mem_map.1 hm
      exact (hl f hf).2 hcross
    · rintro ⟨m, hm, hgoal⟩
      obtain ⟨f, hf, rfl⟩ := List.mem_map.1 hm
      exact (hl f hf).1 hgoal

/-- The same files leave the same tree, in whatever order they are named. -/
theorem Outcome.node?_eq {files' : List OutputFile} {u' : FileTree} (h : Outcome root files t u)
    (h' : Outcome root files' t u') (hmem : ∀ f, f ∈ files ↔ f ∈ files') (l : Location) :
    u.node? l = u'.node? l := by
  by_cases hgoal : ∃ f ∈ files, l = (root.below f.location).goal
  · obtain ⟨f, hf, rfl⟩ := hgoal
    rw [h.file f hf, h'.file f ((hmem f).1 hf)]
  · by_cases hcross : ∃ f ∈ files, (root.below f.location).parent.Crosses l
    · obtain ⟨f, hf, hl⟩ := hcross
      rw [h.directory f hf l hl, h'.directory f ((hmem f).1 hf) l hl]
    · have hnone : ∀ f ∈ files, l ≠ (root.below f.location).goal ∧
          ¬ (root.below f.location).parent.Crosses l := fun f hf =>
        ⟨fun e => hgoal ⟨f, hf, e⟩, fun e => hcross ⟨f, hf, e⟩⟩
      rw [h.other l hnone, h'.other l fun f hf => hnone f ((hmem f).2 hf)]

/-! ## Runs -/

/-- A run into an empty destination succeeds if the interfaces have files and each of these can be
written. -/
theorem exists_generate_iff {o : GenerateOptions} (hempty : IsEmptyAt root t) :
    (∃ r u, generate o interfaces root t = (.ok r, u)) ↔
      Generable o.toRenderOptions interfaces ∧
        ∀ f, IsOutputFile o.toRenderOptions interfaces f → t.Writable (root.below f.location) := by
  rw [← exists_outputFiles_iff]
  constructor
  · rintro ⟨r, u, h⟩
    obtain ⟨files, hfiles, hwrite⟩ := generate_eq_ok_iff.1 h
    have hwritable := (exists_writeFiles_iff (isNew_of_outputFiles hfiles hempty)).1 ⟨r, u, hwrite⟩
    exact ⟨⟨files, hfiles⟩, fun f hf => hwritable f ((mem_outputFiles_iff hfiles).2 hf)⟩
  · rintro ⟨⟨files, hfiles⟩, hwritable⟩
    obtain ⟨r, u, hwrite⟩ := (exists_writeFiles_iff (isNew_of_outputFiles hfiles hempty)).2
      fun f hf => hwritable f ((mem_outputFiles_iff hfiles).1 hf)
    exact ⟨r, u, generate_eq_ok_iff.2 ⟨files, hfiles, hwrite⟩⟩

/-- **Generating in any order.** Into an empty destination, a run on the interfaces in another order
succeeds exactly if the run on the interfaces does. If two such runs succeed, whatever the
destination held, they leave the same at every location: the same files with the same texts, the
lists of modules among them, and the same directories. -/
theorem generate_perm {o : GenerateOptions} (hperm : interfaces.Perm others) (root : FilePath)
    (t : FileTree) :
    (IsEmptyAt root t →
      ((∃ r u, generate o interfaces root t = (.ok r, u)) ↔
        ∃ r u, generate o others root t = (.ok r, u))) ∧
    ∀ r u r' u', generate o interfaces root t = (.ok r, u) →
      generate o others root t = (.ok r', u') → ∀ l, u.node? l = u'.node? l := by
  constructor
  · intro hempty
    have hgenerable : Generable o.toRenderOptions interfaces ↔ Generable o.toRenderOptions others :=
      ⟨Generable.perm hperm, Generable.perm hperm.symm⟩
    have hfile (f : OutputFile) := isOutputFile_perm (o := o.toRenderOptions) (f := f) hperm
    rw [exists_generate_iff hempty, exists_generate_iff hempty, hgenerable]
    simp only [hfile]
  · intro r u r' u' hrun hrun'
    obtain ⟨files, hfiles, hwrite⟩ := generate_eq_ok_iff.1 hrun
    obtain ⟨files', hfiles', hwrite'⟩ := generate_eq_ok_iff.1 hrun'
    refine (outcome_of_writeFiles hfiles hwrite).node?_eq (outcome_of_writeFiles hfiles' hwrite')
      fun f => ?_
    rw [mem_outputFiles_iff hfiles, mem_outputFiles_iff hfiles', isOutputFile_perm hperm]

theorem generate_perm_nestedInterfaces :
    ∃ r u r' u', generate {} nestedInterfaces (FilePath.ofText "out") FileTree.empty = (.ok r, u) ∧
      generate {} nestedInterfaces.reverse (FilePath.ofText "out") FileTree.empty = (.ok r', u') ∧
      ∀ l, u.node? l = u'.node? l := by
  have hempty : IsEmptyAt (FilePath.ofText "out") FileTree.empty := by
    intro l habove hne
    have hl : l ≠ [] := by
      rintro rfl
      exact hne (List.prefix_nil.1 habove).symm
    rw [node?, if_neg hl]
    rfl
  have hperm : nestedInterfaces.Perm nestedInterfaces.reverse := (List.reverse_perm _).symm
  obtain ⟨hsucceeds, hsame⟩ := generate_perm (o := {}) hperm (FilePath.ofText "out") FileTree.empty
  have hok : (generate {} nestedInterfaces (FilePath.ofText "out") FileTree.empty).1.isOk = true :=
    by decide +kernel
  rcases hrun : generate {} nestedInterfaces (FilePath.ofText "out") FileTree.empty with ⟨_ | r, u⟩
  · rw [hrun] at hok
    cases hok
  · obtain ⟨r', u', hrun'⟩ := (hsucceeds hempty).1 ⟨r, u, hrun⟩
    exact ⟨r, u, r', u', rfl, hrun', hsame r u r' u' hrun hrun'⟩

end BusDoc.Binding
