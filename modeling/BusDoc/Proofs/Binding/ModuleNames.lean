import BusDoc.Proofs.Binding.Footprint
import BusDoc.Proofs.Binding.ItemLines
import BusDoc.Proofs.Binding.Members
import BusDoc.Proofs.Text.Trim

/-!
# Names of generated modules

The names that the lists of a run declare are the parts of the places of its modules. A segment of
an interface name always becomes something that is no reserved word, and an identifier unless it
is a single underscore; that happens to a segment of one character that is no letter and no digit.
The last segment is safe from it, because it is the name of a type as well.

* `isIdentifier_moduleIdent_iff`: which segments become identifiers.
* `not_isMark_snakeCase`: no name of a type becomes such a segment in snake case.
* `IsPlan.declared_iff`: the lists declare the parts of the places.
* `generate_moduleNames`: which runs declare only names that modules may have.
-/

namespace BusDoc.Binding

open Result Text

/-! ## Segments -/

/-- One character that is no letter and no digit of ASCII. -/
def IsMark (s : List Char) : Prop := ∃ c, s = [c] ∧ isAsciiAlnum c = false

variable {s : List Char}

theorem ne_nil_of_isReserved (h : isReserved s = true) : s ≠ [] := by
  rintro rfl
  exact absurd h (by decide)

theorem unreserve_eq_underscore_iff : unreserve s = ['_'] ↔ s = ['_'] := by
  unfold unreserve
  split
  next h =>
    have hmark : s ≠ ['_'] := by
      rintro rfl
      exact absurd h (by decide)
    simp [ne_nil_of_isReserved h, hmark]
  next => exact Iff.rfl

theorem head?_unreserve : (unreserve s).head? = s.head? := by
  unfold unreserve
  split
  next h => rw [List.head?_append_of_ne_nil _ (ne_nil_of_isReserved h)]
  next => rfl

/-- The character of a module name that a character of a segment becomes. -/
theorem plainChar_eq_underscore_iff {c : Char} :
    (if isAsciiAlnum c then asciiLower c else '_') = '_' ↔ isAsciiAlnum c = false := by
  split
  next hc =>
    refine iff_of_false (fun e => ?_) (by simp [hc])
    have halnum := isAsciiAlnum_asciiLower hc
    rw [e] at halnum
    cases halnum
  next hc => simpa using hc

theorem moduleIdent_eq_underscore_iff : moduleIdent s = ['_'] ↔ IsMark s := by
  unfold moduleIdent
  rw [unreserve_eq_underscore_iff]
  split
  next hdigit =>
    -- a first digit keeps its place behind the underscore
    cases s with
    | nil => cases hdigit
    | cons c t =>
      refine iff_of_false (by simp) ?_
      rintro ⟨d, hd, hmark⟩
      cases hd
      rw [List.map_singleton, plainChar_eq_underscore_iff.2 hmark] at hdigit
      cases hdigit
  next =>
    rw [List.map_eq_singleton_iff]
    simp only [IsMark, plainChar_eq_underscore_iff]

theorem not_isAsciiDigit_head {c : Char} (h : (moduleIdent s).head? = some c) :
    isAsciiDigit c = false := by
  unfold moduleIdent at h
  rw [head?_unreserve] at h
  split at h
  next =>
    cases h
    rfl
  next hdigit => simpa [h] using hdigit

theorem isIdentifier_moduleIdent_iff (hs : s ≠ []) :
    isIdentifier (moduleIdent s) = true ↔ ¬ IsMark s := by
  rw [← moduleIdent_eq_underscore_iff]
  have hname := isModuleName_moduleIdent hs
  have hhead {c : Char} := not_isAsciiDigit_head (s := s) (c := c)
  obtain ⟨c, t, ht⟩ := List.exists_cons_of_ne_nil hname.ne_nil
  rw [ht] at hhead hname ⊢
  have hstart : isIdentStart c = true := by
    have hc := hname.chars c List.mem_cons_self
    rw [isIdentRest, isAsciiAlnum, hhead rfl, Bool.or_false] at hc
    exact hc
  have hrest : t.all isIdentRest = true :=
    List.all_eq_true.2 fun d hd => hname.chars d (List.mem_cons_of_mem c hd)
  simp [isIdentifier, hstart, hrest, imp_iff_not_or]

/-! ## Names of types -/

theorem isIdentRest_snakeFrom {previous written : Option Char}
    (hs : ∀ c ∈ s, isIdentRest c = true) :
    ∀ c ∈ snakeFrom previous written s, isIdentRest c = true := by
  induction s generalizing previous written with
  | nil => simp [snakeFrom]
  | cons c s ih =>
    obtain ⟨hc, hs⟩ := List.forall_mem_cons.1 hs
    have hascii := isAscii_of_isIdentRest hc
    rw [snakeFrom]
    split
    next hupper =>
      have hcapital : isAsciiAlnum c = true := by
        rw [isUpper_ascii hascii] at hupper
        simp [isAsciiAlnum, isAsciiAlpha, hupper]
      rw [toLower_ascii hascii]
      intro d hd
      rcases List.mem_append.1 hd with hd | hd
      · rcases List.mem_append.1 hd with hd | hd
        · -- the gap is a single underscore, if there is one
          split at hd
          next => exact List.mem_singleton.1 hd ▸ rfl
          next => cases hd
        · exact List.mem_singleton.1 hd ▸ isIdentRest_asciiLower hcapital
      · exact ih hs d hd
    next =>
      split
      next => exact List.forall_mem_cons.2 ⟨hc, ih hs⟩
      next =>
        split
        next => exact List.forall_mem_cons.2 ⟨rfl, ih hs⟩
        next => exact ih hs

theorem not_isMark_snakeCase (hs : ∀ c ∈ s, isIdentRest c = true) : ¬ IsMark (snakeCase s) := by
  rintro ⟨c, hc, hmark⟩
  have hlast : (snakeCase s).getLast? = some c := by rw [hc]; rfl
  have hend : (c == '_') = false := getLast?_dropEndWhile (p := (· == '_')) hlast
  have hrest : isIdentRest c = true :=
    isIdentRest_snakeFrom hs c (mem_of_mem_dropEndWhile (List.mem_of_getLast? hlast))
  rw [isIdentRest, hmark, hend] at hrest
  cases hrest

/-! ## Places -/

variable {interfaces : List Interface} {placed : List Placed}

/-- The segments of the name of an interface but the last, which become directories. -/
def leadingSegments (i : Interface) : List (List Char) := (splitOn '.' i.name.toList).dropLast

theorem modulePath_eq_ok {i : Interface} {p : ModulePath} (h : modulePath i.name = .ok p) :
    (∀ s ∈ leadingSegments i, s ≠ []) ∧ snakeCase i.shortName.toList ≠ [] ∧
      p = ⟨(leadingSegments i).map fun s => String.ofList (moduleIdent s),
        String.ofList (moduleIdent (snakeCase i.shortName.toList))⟩ := by
  simp only [modulePath] at h
  split at h
  next => cases h
  next hsegments =>
    split at h
    next => cases h
    next hfile =>
      have hnil : [] ∉ splitOn '.' i.name.toList := by simpa using hsegments
      have hlast : i.shortName.toList = (splitOn '.' i.name.toList).getLastD [] :=
        String.toList_ofList
      rw [hlast]
      refine ⟨fun s hs e => hnil (e ▸ List.mem_of_mem_dropLast hs), by simpa using hfile, ?_⟩
      exact (Except.ok.inj h).symm

theorem isItemName_moduleIdent_iff (hs : s ≠ []) :
    IsItemName (String.ofList (moduleIdent s)) ↔ ¬ IsMark s := by
  rw [← isIdentifier_moduleIdent_iff hs]
  constructor
  · intro h
    have := h.identifier
    rwa [String.toList_ofList] at this
  · exact fun h => isItemName_ofList h (isReserved_unreserve _)

theorem nameOrMark_parts {i : Interface} {p : ModulePath} (h : modulePath i.name = .ok p) :
    ∀ c ∈ p.asDirectory, IsItemName c ∨ c = "_" := by
  obtain ⟨hne, hfile, rfl⟩ := modulePath_eq_ok h
  have hpart {s : List Char} (hs : s ≠ []) :
      IsItemName (String.ofList (moduleIdent s)) ∨ String.ofList (moduleIdent s) = "_" := by
    by_cases hmark : IsMark s
    · exact .inr (congrArg String.ofList (moduleIdent_eq_underscore_iff.2 hmark))
    · exact .inl ((isItemName_moduleIdent_iff hs).2 hmark)
  intro c hc
  rcases List.mem_append.1 hc with hc | hc
  · obtain ⟨s, hs, rfl⟩ := List.mem_map.1 hc
    exact hpart (hne s hs)
  · rw [List.mem_singleton.1 hc]
    exact hpart hfile

theorem isItemName_parts_iff {i : Interface} {p : ModulePath} (h : modulePath i.name = .ok p) :
    (∀ c ∈ p.asDirectory, IsItemName c) ↔
      (∀ s ∈ leadingSegments i, ¬ IsMark s) ∧ ¬ IsMark (snakeCase i.shortName.toList) := by
  obtain ⟨hne, hfile, rfl⟩ := modulePath_eq_ok h
  simp only [ModulePath.asDirectory, List.forall_mem_append, List.forall_mem_singleton,
    List.forall_mem_map]
  exact and_congr (forall₂_congr fun s hs => isItemName_moduleIdent_iff (hne s hs))
    (isItemName_moduleIdent_iff hfile)

theorem not_isMark_of_render {o : RenderOptions} {i : Interface} {text : String}
    (h : render o i = .ok text) : ¬ IsMark (snakeCase i.shortName.toList) := by
  obtain ⟨m, hm, -⟩ := render_eq_ok.1 h
  exact not_isMark_snakeCase (isWord_of_isIdentifier (clientModule_eq_ok.1 hm).1)

/-- The lists of all directories together hold the parts of the places. -/
theorem exists_mem_modulesIn_iff {paths : List ModulePath} {c : String} :
    (∃ d ∈ directoriesOf paths, c ∈ modulesIn paths d) ↔ ∃ p ∈ paths, c ∈ p.asDirectory := by
  constructor
  · rintro ⟨d, -, hc⟩
    rcases mem_modulesIn.1 hc with ⟨p, hp, -, rfl⟩ | hbelow
    · exact ⟨p, hp, by simp [ModulePath.asDirectory]⟩
    · rcases mem_directoriesOf.1 hbelow with hnil | ⟨p, hp, habove⟩
      · simp at hnil
      · refine ⟨p, hp, List.mem_append_left _ (habove.subset ?_)⟩
        simp
  · rintro ⟨p, hp, hc⟩
    rcases List.mem_append.1 hc with hc | hc
    · obtain ⟨above, below, heq⟩ := List.append_of_mem hc
      have habove : above ++ [c] <+: p.directories := ⟨below, by rw [heq]; simp⟩
      have hmem : above ++ [c] ∈ directoriesOf paths := mem_directoriesOf.2 (.inr ⟨p, hp, habove⟩)
      exact ⟨above, mem_directoriesOf_of_concat hmem, mem_modulesIn.2 (.inr hmem)⟩
    · rw [List.mem_singleton.1 hc]
      exact ⟨p.directories, mem_directoriesOf.2 (.inr ⟨p, hp, List.prefix_refl _⟩),
        mem_modulesIn.2 (.inl ⟨p, hp, rfl, rfl⟩)⟩

theorem IsPlan.exists_path_iff (h : IsPlan interfaces placed) {P : ModulePath → Prop} :
    (∃ p ∈ placed.map Placed.path, P p) ↔
      ∃ i ∈ interfaces, ∃ p, modulePath i.name = .ok p ∧ P p := by
  constructor
  · rintro ⟨path, hpath, hP⟩
    obtain ⟨p, hp, rfl⟩ := List.mem_map.1 hpath
    refine ⟨p.interface, ?_, p.path, h.path p hp, hP⟩
    rw [← h.interfaces_eq]
    exact List.mem_map_of_mem hp
  · rintro ⟨i, hi, path, hpath, hP⟩
    obtain ⟨p, hp, -, hp'⟩ := h.exists_placed hi
    rw [hpath] at hp'
    exact ⟨p.path, List.mem_map_of_mem hp, Except.ok.inj hp' ▸ hP⟩

/-- The lists declare the parts of the places of the modules. -/
theorem IsPlan.declared_iff {text : Location → Except FileFault String} {c : String}
    (h : IsPlan interfaces placed) (htext : HoldsLists placed text) :
    (∃ d, IsModuleDirectory interfaces d ∧ Declares text d c) ↔
      ∃ i ∈ interfaces, ∃ p, modulePath i.name = .ok p ∧ c ∈ p.asDirectory := by
  rw [← h.exists_path_iff, ← exists_mem_modulesIn_iff]
  refine exists_congr fun d => ?_
  rw [h.isModuleDirectory_iff]
  exact and_congr_right fun hd => h.declares_iff htext (h.isModuleDirectory_iff.2 hd)

/-! ## Runs -/

/-- A list that the run wrote or left alone declares the module. -/
def Report.Declares (r : Report) (text : Location → Except FileFault String) (c : String) : Prop :=
  ∃ d, d ++ [listFileName] ∈ r.written ++ r.unchanged ∧ Binding.Declares text d c

theorem declares_iff_of_generate {o : GenerateOptions} {root : FilePath} {t u : FileTree}
    {r : Report} (h : generate o interfaces root t = (.ok r, u)) {c : String} :
    r.Declares (fun l => u.read (root.below l)) c ↔
      ∃ i ∈ interfaces, ∃ p, modulePath i.name = .ok p ∧ c ∈ p.asDirectory := by
  obtain ⟨placed, modules, hplan, hmodules, hwrote⟩ := generate_eq_ok h
  have hlists : HoldsLists placed fun l => u.read (root.below l) := fun d hd =>
    hwrote.read ⟨d ++ [listFileName], _⟩ (List.mem_append_right _ (List.mem_map_of_mem hd))
  have hlocation (d : Location) :
      d ++ [listFileName] ∈ r.written ++ r.unchanged ↔ IsModuleDirectory interfaces d := by
    rw [hwrote.perm.mem_iff, map_location hmodules, hplan.list_mem_iff]
  rw [← hplan.declared_iff hlists]
  exact exists_congr fun d => and_congr_left fun _ => hlocation d

/-- **Names of generated modules.** The parts of the place of a module are identifiers or single
underscores, and no reserved words; a part is an underscore if it stands for a single character
that is no letter and no digit. The names that the lists of a run declare are the parts of the
places of its modules. There the last part is always an identifier, so all are names that modules
may have exactly if no segment that becomes a directory is such a character. -/
theorem generate_moduleNames (o : GenerateOptions) (interfaces : List Interface) (root : FilePath)
    (t : FileTree) :
    (∀ (i : Interface) p, modulePath i.name = .ok p →
      (∀ c ∈ p.asDirectory, IsItemName c ∨ c = "_") ∧
      ((∀ c ∈ p.asDirectory, IsItemName c) ↔
        (∀ s ∈ leadingSegments i, ¬ IsMark s) ∧ ¬ IsMark (snakeCase i.shortName.toList))) ∧
    ∀ r u, generate o interfaces root t = (.ok r, u) →
      (∀ c, r.Declares (fun l => u.read (root.below l)) c ↔
        ∃ i ∈ interfaces, ∃ p, modulePath i.name = .ok p ∧ c ∈ p.asDirectory) ∧
      (∀ i ∈ interfaces, ∃ p, modulePath i.name = .ok p ∧ IsItemName p.stem) ∧
      ((∀ c, r.Declares (fun l => u.read (root.below l)) c → IsItemName c) ↔
        ∀ i ∈ interfaces, ∀ s ∈ leadingSegments i, ¬ IsMark s) := by
  refine ⟨fun i p hp => ⟨nameOrMark_parts hp, isItemName_parts_iff hp⟩, fun r u h => ?_⟩
  have hdeclares (c : String) := declares_iff_of_generate h (c := c)
  obtain ⟨files, hfiles, -⟩ := generate_eq_ok_iff.1 h
  have hgenerable := exists_outputFiles_iff.1 ⟨files, hfiles⟩
  have hparts {i : Interface} (hi : i ∈ interfaces) {p : ModulePath}
      (hp : modulePath i.name = .ok p) :
      (∀ c ∈ p.asDirectory, IsItemName c) ↔ ∀ s ∈ leadingSegments i, ¬ IsMark s := by
    obtain ⟨text, htext⟩ := hgenerable.rendered i hi
    rw [isItemName_parts_iff hp]
    exact and_iff_left (not_isMark_of_render htext)
  refine ⟨hdeclares, fun i hi => ?_, ?_⟩
  · obtain ⟨p, hp⟩ := hgenerable.placed i hi
    obtain ⟨text, htext⟩ := hgenerable.rendered i hi
    refine ⟨p, hp, ?_⟩
    obtain ⟨-, hfile, rfl⟩ := modulePath_eq_ok hp
    exact (isItemName_moduleIdent_iff hfile).2 (not_isMark_of_render htext)
  · constructor
    · intro hnames i hi
      obtain ⟨p, hp⟩ := hgenerable.placed i hi
      exact (hparts hi hp).1 fun c hc => hnames c ((hdeclares c).2 ⟨i, hi, p, hp, hc⟩)
    · intro hmarks c hc
      obtain ⟨i, hi, p, hp, hc⟩ := (hdeclares c).1 hc
      exact (hparts hi hp).2 (hmarks i hi) c hc

theorem generate_moduleNames_nestedInterfaces :
    ∃ r u, generate {} nestedInterfaces (FilePath.ofText "out") FileTree.empty = (.ok r, u) ∧
      ∀ c, r.Declares (fun l => u.read ((FilePath.ofText "out").below l)) c → IsItemName c := by
  have hok : (generate {} nestedInterfaces (FilePath.ofText "out") FileTree.empty).1.isOk = true :=
    by decide +kernel
  have hplain : ∀ i ∈ nestedInterfaces, ∀ s ∈ leadingSegments i, s.length ≠ 1 := by decide
  rcases hrun : generate {} nestedInterfaces (FilePath.ofText "out") FileTree.empty with ⟨_ | r, u⟩
  · rw [hrun] at hok
    cases hok
  · refine ⟨r, u, rfl, ((generate_moduleNames {} nestedInterfaces _ _).2 r u hrun).2.2.2 ?_⟩
    rintro i hi s hs ⟨c, rfl, -⟩
    exact hplain i hi _ hs rfl

/-- An interface whose name has a segment that becomes a single underscore. -/
def markedInterfaces : List Interface := [{ name := "org.-.Device1" }]

theorem unusable_moduleName_markedInterfaces :
    ∃ r u, generate {} markedInterfaces (FilePath.ofText "out") FileTree.empty = (.ok r, u) ∧
      r.Declares (fun l => u.read ((FilePath.ofText "out").below l)) "_" ∧
      isIdentifier "_".toList = false := by
  have hok : (generate {} markedInterfaces (FilePath.ofText "out") FileTree.empty).1.isOk = true :=
    by decide +kernel
  rcases hrun : generate {} markedInterfaces (FilePath.ofText "out") FileTree.empty with ⟨_ | r, u⟩
  · rw [hrun] at hok
    cases hok
  · refine ⟨r, u, rfl, (declares_iff_of_generate hrun).2 ?_, rfl⟩
    exact ⟨_, List.mem_singleton_self _, ⟨["org", "_"], "device1"⟩, by decide, by decide⟩

end BusDoc.Binding
