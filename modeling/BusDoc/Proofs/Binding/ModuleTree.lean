import BusDoc.Proofs.Binding.Writing
import BusDoc.Proofs.Text.Lines
import Mathlib.Data.List.Induction
import Mathlib.Logic.Basic

/-!
# The tree of generated modules

What a run leaves below its destination is a tree of modules: every directory has a list that
declares the files and directories in it, so that all modules can be found from the top.

* `declaredModules_listText`: a list declares exactly the modules it was written for.
* `IsPlan.mem_modulesIn_iff`, `IsPlan.not_file_and_directory`: these are the files and directories
  beside it, and no name stands for both.
* `IsPlan.reached`: a walk along the declarations comes to every file.
* `generate_isModuleTree`: a run that succeeds leaves a tree of modules.
-/

namespace BusDoc.Binding

open Text

/-! ## Declarations -/

/-- How a line begins that declares a module. -/
def declarationOpening : List Char := "pub mod ".toList

/-- The module that a line declares. -/
def declaredBy? (line : List Char) : Option String :=
  ((after? declarationOpening line).bind (before? [';'])).map String.ofList

/-- The modules that a source text declares. -/
def declaredModules (source : String) : List String :=
  (splitOn '\n' source.toList).filterMap declaredBy?

/-- The line that declares a module. -/
def declaration (c : String) : List Char := declarationOpening ++ (c.toList ++ [';'])

theorem declaredBy?_declaration (c : String) : declaredBy? (declaration c) = some c := by
  have hafter : after? declarationOpening (declaration c) = some (c.toList ++ [';']) := by
    rw [after?_eq_some_iff, declaration]
  have hbefore : before? [';'] (c.toList ++ [';']) = some c.toList := by
    rw [before?_eq_some_iff]
  rw [declaredBy?, hafter, Option.bind_some, hbefore, Option.map_some, String.ofList_toList]

theorem toList_declaration (c : String) :
    ("pub mod " ++ c ++ ";\n").toList = declaration c ++ ['\n'] := by
  rw [String.toList_append, String.toList_append, declaration, List.append_assoc,
    List.append_assoc, List.append_assoc]
  rfl

theorem toList_listText (names : NameSet) :
    (listText names).toList =
      terminate ([banner.toList, []] ++ names.names.map declaration) := by
  have hlines (cs : List String) :
      (String.join (cs.map fun c => "pub mod " ++ c ++ ";\n")).toList =
        terminate (cs.map declaration) := by
    simp only [String.toList_join, terminate, List.flatMap_map, toList_declaration]
  rw [listText, String.toList_append, String.toList_append, hlines, terminate_append]
  rfl

theorem not_mem_declaration {c : String} (h : IsModuleName c.toList) : '\n' ∉ declaration c := by
  have hopening : '\n' ∉ declarationOpening := by decide
  have hname : '\n' ∉ c.toList := fun hm => absurd (h.chars _ hm) (by decide)
  simp [declaration, hopening, hname]

theorem declaredModules_listText {names : NameSet} (h : ∀ c ∈ names, IsModuleName c.toList) :
    declaredModules (listText names) = names.names := by
  have hfeed : ∀ l ∈ [banner.toList, []] ++ names.names.map declaration, '\n' ∉ l := by
    intro l hl
    rcases List.mem_append.1 hl with hl | hl
    · have hbanner : ∀ l ∈ [banner.toList, []], '\n' ∉ l := by decide
      exact hbanner l hl
    · obtain ⟨c, hc, rfl⟩ := List.mem_map.1 hl
      exact not_mem_declaration (h c hc)
  have hbanner : [banner.toList, []].filterMap declaredBy? = [] := by decide
  have hend : [([] : List Char)].filterMap declaredBy? = [] := by decide
  have hnames : (names.names.map declaration).filterMap declaredBy? = names.names := by
    simp [List.filterMap_map, declaredBy?_declaration]
  rw [declaredModules, toList_listText, splitOn_terminate hfeed, List.filterMap_append,
    List.filterMap_append, hbanner, hend, hnames, List.nil_append, List.append_nil]

/-! ## Trees of modules -/

/-- An interface has its module at the location. -/
def IsModuleFile (interfaces : List Interface) (l : Location) : Prop :=
  ∃ i ∈ interfaces, ∃ p, modulePath i.name = .ok p ∧ l = p.file

/-- The location is the top, or lies above the module of an interface. -/
def IsModuleDirectory (interfaces : List Interface) (d : Location) : Prop :=
  d = [] ∨ ∃ l, IsModuleFile interfaces l ∧ d <+: l ∧ d ≠ l

/-- The list of a directory declares a module. -/
def Declares (text : Location → Except FileFault String) (d : Location) (c : String) : Prop :=
  ∃ s, text (d ++ [listFileName]) = .ok s ∧ c ∈ declaredModules s

/-- The files that are found from the list of the top: a declaration leads to the file of the
module, or to the list of the directory of its name. -/
inductive Reached (files : List Location) (text : Location → Except FileFault String) :
    Location → Prop
  | top : Reached files text [listFileName]
  | file {d : Location} {c : String} : Reached files text (d ++ [listFileName]) →
      Declares text d c → d ++ [c ++ ".rs"] ∈ files → Reached files text (d ++ [c ++ ".rs"])
  | directory {d : Location} {c : String} : Reached files text (d ++ [listFileName]) →
      Declares text d c → d ++ [c] ++ [listFileName] ∈ files →
      Reached files text (d ++ [c] ++ [listFileName])

theorem Reached.mono {files all : List Location} {text : Location → Except FileFault String}
    {l : Location} (h : Reached files text l) (hsub : files ⊆ all) : Reached all text l := by
  induction h with
  | top => exact .top
  | file _ hdeclared hmem ih => exact .file ih hdeclared (hsub hmem)
  | directory _ hdeclared hmem ih => exact .directory ih hdeclared (hsub hmem)

/-- The files are the modules of the interfaces with the lists of all directories above them, and
the declarations in the lists lead to all of them and nowhere else. -/
structure IsModuleTree (interfaces : List Interface) (files : List Location)
    (text : Location → Except FileFault String) : Prop where
  nodup : files.Nodup
  /-- Every interface has a place. -/
  placed : ∀ i ∈ interfaces, ∃ p, modulePath i.name = .ok p
  /-- No two interfaces have the same place. -/
  apart : interfaces.Pairwise fun i j => modulePath i.name ≠ modulePath j.name
  mem_iff : ∀ l, l ∈ files ↔ IsModuleFile interfaces l ∨
    ∃ d, IsModuleDirectory interfaces d ∧ l = d ++ [listFileName]
  /-- A list declares the files and the directories beside it, in order. -/
  list : ∀ d, IsModuleDirectory interfaces d → ∃ names : List String,
    names.Pairwise (· < ·) ∧
    text (d ++ [listFileName]) = .ok (banner ++ "\n\n" ++
      String.join (names.map fun c => "pub mod " ++ c ++ ";\n")) ∧
    ∀ c, c ∈ names ↔
      IsModuleFile interfaces (d ++ [c ++ ".rs"]) ∨ IsModuleDirectory interfaces (d ++ [c])
  /-- No name stands for a file and a directory. -/
  not_both : ∀ d c,
    ¬ (IsModuleFile interfaces (d ++ [c ++ ".rs"]) ∧ IsModuleDirectory interfaces (d ++ [c]))
  /-- No interface has its module where a list is. -/
  file_ne : ∀ l, IsModuleFile interfaces l → ∀ d, l ≠ d ++ [listFileName]
  reached : ∀ l ∈ files, Reached files text l
  /-- A declaration leads to one file. -/
  resolved : ∀ d c, d ++ [listFileName] ∈ files → Declares text d c →
    Xor (d ++ [c ++ ".rs"] ∈ files) (d ++ [c] ++ [listFileName] ∈ files)

/-! ## Plans as trees -/

variable {interfaces : List Interface} {placed : List Placed} {d l : Location} {c : String}

theorem IsPlan.isModuleFile_iff (h : IsPlan interfaces placed) :
    IsModuleFile interfaces l ↔ ∃ p ∈ placed, l = p.path.file := by
  unfold IsModuleFile
  rw [← h.interfaces_eq]
  constructor
  · rintro ⟨i, hi, path, hpath, rfl⟩
    obtain ⟨p, hp, rfl⟩ := List.mem_map.1 hi
    rw [h.path p hp] at hpath
    cases hpath
    exact ⟨p, hp, rfl⟩
  · rintro ⟨p, hp, rfl⟩
    exact ⟨p.interface, List.mem_map_of_mem hp, p.path, h.path p hp, rfl⟩

theorem IsPlan.isModuleDirectory_iff (h : IsPlan interfaces placed) :
    IsModuleDirectory interfaces d ↔ d ∈ directoriesOf (placed.map Placed.path) := by
  rw [mem_directoriesOf, IsModuleDirectory]
  refine or_congr_right ?_
  constructor
  · rintro ⟨l, hl, habove⟩
    obtain ⟨p, hp, rfl⟩ := h.isModuleFile_iff.1 hl
    exact ⟨p.path, List.mem_map_of_mem hp, ModulePath.prefix_directories_iff.2 habove⟩
  · rintro ⟨path, hpath, hbelow⟩
    obtain ⟨p, hp, rfl⟩ := List.mem_map.1 hpath
    exact ⟨p.path.file, h.isModuleFile_iff.2 ⟨p, hp, rfl⟩,
      ModulePath.prefix_directories_iff.1 hbelow⟩

theorem IsPlan.mem_modulesIn_iff (h : IsPlan interfaces placed) :
    c ∈ modulesIn (placed.map Placed.path) d ↔
      IsModuleFile interfaces (d ++ [c ++ ".rs"]) ∨ IsModuleDirectory interfaces (d ++ [c]) := by
  rw [mem_modulesIn, ← h.isModuleDirectory_iff, h.isModuleFile_iff]
  refine or_congr_left ?_
  constructor
  · rintro ⟨path, hpath, hplace⟩
    obtain ⟨p, hp, rfl⟩ := List.mem_map.1 hpath
    exact ⟨p, hp, (ModulePath.file_eq_concat_iff.2 hplace).symm⟩
  · rintro ⟨p, hp, hfile⟩
    exact ⟨p.path, List.mem_map_of_mem hp, ModulePath.file_eq_concat_iff.1 hfile.symm⟩

/-- A file with the name of a directory beside it would shadow the modules in the directory. -/
theorem IsPlan.not_file_and_directory (h : IsPlan interfaces placed) :
    ¬ (IsModuleFile interfaces (d ++ [c ++ ".rs"]) ∧
      IsModuleDirectory interfaces (d ++ [c])) := by
  rintro ⟨hfile, hdirectory⟩
  obtain ⟨p, hp, hfile⟩ := h.isModuleFile_iff.1 hfile
  obtain ⟨rfl, rfl⟩ := ModulePath.file_eq_concat_iff.1 hfile.symm
  rcases mem_directoriesOf.1 (h.isModuleDirectory_iff.1 hdirectory) with hnil | ⟨path, hpath, hq⟩
  · simp at hnil
  · obtain ⟨q, hq', rfl⟩ := List.mem_map.1 hpath
    exact h.unshadowed p hp q hq' hq

theorem IsPlan.isModuleName (h : IsPlan interfaces placed)
    (hc : c ∈ modulesIn (placed.map Placed.path) d) : IsModuleName c.toList := by
  rcases mem_modulesIn.1 hc with ⟨path, hpath, -, rfl⟩ | hdirectory
  · obtain ⟨p, hp, rfl⟩ := List.mem_map.1 hpath
    exact (h.wellFormed hp).stem
  · exact h.isModuleName_of_mem hdirectory c (by simp)

theorem IsPlan.apart (h : IsPlan interfaces placed) :
    interfaces.Pairwise fun i j => modulePath i.name ≠ modulePath j.name := by
  rw [← h.interfaces_eq, List.pairwise_map]
  have hpaths := List.pairwise_map.1 h.nodup
  refine hpaths.imp_of_mem fun {p q} hp hq hne e => ?_
  rw [h.path p hp, h.path q hq] at e
  exact hne (Except.ok.inj e)

theorem IsPlan.mem_locationsOf (h : IsPlan interfaces placed) :
    l ∈ locationsOf (placed.map Placed.path) ↔ IsModuleFile interfaces l ∨
      ∃ d, IsModuleDirectory interfaces d ∧ l = d ++ [listFileName] := by
  simp only [locationsOf, List.mem_append, List.mem_map, h.isModuleFile_iff,
    h.isModuleDirectory_iff, exists_exists_and_eq_and, eq_comm (a := l)]

theorem IsPlan.file_ne (h : IsPlan interfaces placed) (hl : IsModuleFile interfaces l)
    (d : Location) : l ≠ d ++ [listFileName] := by
  obtain ⟨p, hp, rfl⟩ := h.isModuleFile_iff.1 hl
  exact (h.wellFormed hp).file_ne d

theorem IsPlan.list_mem_iff (h : IsPlan interfaces placed) :
    d ++ [listFileName] ∈ locationsOf (placed.map Placed.path) ↔
      IsModuleDirectory interfaces d := by
  rw [h.mem_locationsOf]
  constructor
  · rintro (hfile | ⟨e, he, hde⟩)
    · exact absurd rfl (h.file_ne hfile d)
    · rwa [(List.append_singleton_inj.1 hde).1]
  · exact fun hd => .inr ⟨d, hd, rfl⟩

theorem IsPlan.file_mem_iff (h : IsPlan interfaces placed) (hc : IsModuleName c.toList) :
    d ++ [c ++ ".rs"] ∈ locationsOf (placed.map Placed.path) ↔
      IsModuleFile interfaces (d ++ [c ++ ".rs"]) := by
  rw [h.mem_locationsOf]
  refine or_iff_left ?_
  rintro ⟨e, -, hde⟩
  exact hc.ne_listFileName (List.append_singleton_inj.1 hde).2

/-! ## Walks -/

section Walk

variable {files : List Location} {text : Location → Except FileFault String}

/-- The lists of a plan have been written. -/
def HoldsLists (placed : List Placed) (text : Location → Except FileFault String) : Prop :=
  ∀ d ∈ directoriesOf (placed.map Placed.path),
    text (d ++ [listFileName]) = .ok (listText (modulesIn (placed.map Placed.path) d))

theorem IsPlan.declares_iff (h : IsPlan interfaces placed) (htext : HoldsLists placed text)
    (hd : IsModuleDirectory interfaces d) :
    Declares text d c ↔ c ∈ modulesIn (placed.map Placed.path) d := by
  have hlist := htext d (h.isModuleDirectory_iff.1 hd)
  have hnames : declaredModules (listText (modulesIn (placed.map Placed.path) d)) = _ :=
    declaredModules_listText fun c hc => h.isModuleName hc
  constructor
  · rintro ⟨s, hs, hc⟩
    rw [hlist] at hs
    cases hs
    rwa [hnames] at hc
  · intro hc
    exact ⟨_, hlist, by rwa [hnames]⟩

/-- The walk down to a directory goes through all directories above it. -/
theorem IsPlan.reached_list (h : IsPlan interfaces placed) (htext : HoldsLists placed text)
    (hd : IsModuleDirectory interfaces d) :
    Reached (locationsOf (placed.map Placed.path)) text (d ++ [listFileName]) := by
  induction d using List.reverseRecOn with
  | nil => exact .top
  | append_singleton d c ih =>
    have habove : IsModuleDirectory interfaces d :=
      h.isModuleDirectory_iff.2 (mem_directoriesOf_of_concat (h.isModuleDirectory_iff.1 hd))
    have hdeclared : Declares text d c :=
      (h.declares_iff htext habove).2 (h.mem_modulesIn_iff.2 (.inr hd))
    exact .directory (ih habove) hdeclared (h.list_mem_iff.2 hd)

theorem IsPlan.reached (h : IsPlan interfaces placed) (htext : HoldsLists placed text)
    (hl : l ∈ locationsOf (placed.map Placed.path)) :
    Reached (locationsOf (placed.map Placed.path)) text l := by
  rcases h.mem_locationsOf.1 hl with hfile | ⟨d, hd, rfl⟩
  · obtain ⟨p, hp, rfl⟩ := h.isModuleFile_iff.1 hfile
    have habove : IsModuleDirectory interfaces p.path.directories :=
      h.isModuleDirectory_iff.2
        (mem_directoriesOf.2 (.inr ⟨p.path, List.mem_map_of_mem hp, List.prefix_refl _⟩))
    have hdeclared : Declares text p.path.directories p.path.stem :=
      (h.declares_iff htext habove).2 (h.mem_modulesIn_iff.2 (.inl hfile))
    exact .file (h.reached_list htext habove) hdeclared hl
  · exact h.reached_list htext hd

theorem IsPlan.resolved (h : IsPlan interfaces placed) (htext : HoldsLists placed text)
    (hd : d ++ [listFileName] ∈ locationsOf (placed.map Placed.path))
    (hdeclared : Declares text d c) :
    Xor (d ++ [c ++ ".rs"] ∈ locationsOf (placed.map Placed.path))
      (d ++ [c] ++ [listFileName] ∈ locationsOf (placed.map Placed.path)) := by
  have hc := (h.declares_iff htext (h.list_mem_iff.1 hd)).1 hdeclared
  rw [h.file_mem_iff (h.isModuleName hc), h.list_mem_iff, xor_iff_or_and_not_and]
  exact ⟨h.mem_modulesIn_iff.1 hc, h.not_file_and_directory⟩

/-- The files of a plan are a tree of modules, in whatever order they are named. -/
theorem IsPlan.isModuleTree (h : IsPlan interfaces placed) (htext : HoldsLists placed text)
    (hperm : files.Perm (locationsOf (placed.map Placed.path))) :
    IsModuleTree interfaces files text where
  nodup := hperm.nodup_iff.2 h.nodup_locations
  placed := by
    rw [← h.interfaces_eq]
    intro i hi
    obtain ⟨p, hp, rfl⟩ := List.mem_map.1 hi
    exact ⟨p.path, h.path p hp⟩
  apart := h.apart
  mem_iff l := hperm.mem_iff.trans h.mem_locationsOf
  list d hd := by
    refine ⟨_, (modulesIn (placed.map Placed.path) d).sorted,
      htext d (h.isModuleDirectory_iff.1 hd), fun c => h.mem_modulesIn_iff⟩
  not_both _ _ := h.not_file_and_directory
  file_ne _ hl := h.file_ne hl
  reached l hl := (h.reached htext (hperm.mem_iff.1 hl)).mono hperm.symm.subset
  resolved d c hd hdeclared := by
    rw [hperm.mem_iff, hperm.mem_iff]
    exact h.resolved htext (hperm.mem_iff.1 hd) hdeclared

end Walk

/-! ## Runs -/

/-- **Module trees.** A run that succeeds leaves a tree of modules: its report names every file
once, the lists declare exactly what lies beside them, and the declarations lead from the top to
every file. -/
theorem generate_isModuleTree {o : GenerateOptions} {root : FilePath} {t u : FileTree}
    {r : Report} (h : generate o interfaces root t = (.ok r, u)) :
    IsModuleTree interfaces (r.written ++ r.unchanged) fun l => u.read (root.below l) := by
  obtain ⟨placed, modules, hplan, hmodules, hwrote⟩ := generate_eq_ok h
  refine hplan.isModuleTree (fun d hd => ?_) (map_location hmodules ▸ hwrote.perm)
  have hlist : (⟨d ++ [listFileName], listText (modulesIn (placed.map Placed.path) d)⟩ :
      OutputFile) ∈ modules ++ listFiles (placed.map Placed.path) :=
    List.mem_append_right _ (List.mem_map_of_mem hd)
  exact hwrote.read _ hlist

/-- Interfaces of two directories, one inside the other; a segment of the second name is a reserved
word. -/
def nestedInterfaces : List Interface :=
  [{ name := "org.example.Player1" }, { name := "org.example.type.Track" }]

theorem generate_isModuleTree_nestedInterfaces :
    ∃ r u, generate {} nestedInterfaces (FilePath.ofText "out") FileTree.empty = (.ok r, u) ∧
      IsModuleTree nestedInterfaces (r.written ++ r.unchanged) fun l =>
        u.read ((FilePath.ofText "out").below l) := by
  have hok : (generate {} nestedInterfaces (FilePath.ofText "out") FileTree.empty).1.isOk = true :=
    by decide +kernel
  cases hrun : generate {} nestedInterfaces (FilePath.ofText "out") FileTree.empty with
  | mk result u =>
    rw [hrun] at hok
    cases result with
    | error e => cases hok
    | ok r => exact ⟨r, u, rfl, generate_isModuleTree hrun⟩

end BusDoc.Binding
