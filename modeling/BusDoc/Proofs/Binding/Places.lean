import BusDoc.Binding.Layout
import BusDoc.Proofs.Result
import BusDoc.Proofs.Text.Letter
import BusDoc.Text.Search
import Mathlib.Data.List.Infix
import Mathlib.Data.List.Nodup

/-!
# Places of modules

The segments of an interface name become names of modules: identifiers that are no reserved words,
so that no module can take the place of a file that lists modules.

* `isModuleName_moduleIdent`, `wellFormed_of_modulePath`: the names that places are made of.
* `plan_eq_ok`: a plan places every interface, no two in one file and none beside a directory of its
  name.
* `mem_directoriesOf`, `mem_modulesIn`: the directories of places are all above them, and each lists
  its files and the directories directly in it.
-/

namespace BusDoc.Binding

open Result Text

/-! ## Names of modules -/

/-- A name that a module can have. -/
structure IsModuleName (s : List Char) : Prop where
  ne_nil : s ≠ []
  chars : ∀ c ∈ s, isIdentRest c = true
  free : isReserved s = false

theorem isReserved_unreserve (s : List Char) : isReserved (unreserve s) = false := by
  have hend : ∀ w ∈ reservedWords, endsWith ['_'] w.toList = false := by decide
  unfold unreserve
  split
  next =>
    rw [isReserved, List.any_eq_false]
    intro w hw e
    exact ne_append_of_not_endsWith (hend w hw) s (beq_iff_eq.1 e)
  next h => simpa using h

theorem mem_unreserve {s : List Char} {c : Char} (h : c ∈ unreserve s) : c ∈ s ∨ c = '_' := by
  unfold unreserve at h
  split at h
  next => simpa using h
  next => exact .inl h

theorem unreserve_ne_nil {s : List Char} (h : s ≠ []) : unreserve s ≠ [] := by
  unfold unreserve
  split
  next => simp
  next => exact h

theorem isModuleName_moduleIdent {segment : List Char} (h : segment ≠ []) :
    IsModuleName (moduleIdent segment) := by
  have hmap : ∀ c ∈ segment.map fun c => if isAsciiAlnum c then asciiLower c else '_',
      isIdentRest c = true := by
    intro c hc
    obtain ⟨d, -, rfl⟩ := List.mem_map.1 hc
    split
    next hd => exact isIdentRest_asciiLower hd
    next => rfl
  unfold moduleIdent
  refine ⟨unreserve_ne_nil ?_, fun c hc => ?_, isReserved_unreserve _⟩
  · split
    next => simp
    next => simpa using h
  · rcases mem_unreserve hc with hc | rfl
    · split at hc
      next =>
        rcases List.mem_cons.1 hc with rfl | hc
        · rfl
        · exact hmap c hc
      next => exact hmap c hc
    · rfl

/-- A name of a module, with what may stand behind it, is no dot and no two dots. -/
theorem append_ne_dots {s : String} (h : IsModuleName s.toList) (t : String) :
    s ++ t ≠ "." ∧ s ++ t ≠ ".." := by
  obtain ⟨first, rest, hs⟩ := List.exists_cons_of_ne_nil h.ne_nil
  have hfirst : first ≠ '.' := by
    rintro rfl
    exact absurd (h.chars '.' (hs ▸ List.mem_cons_self)) (by decide)
  have hne (dots : List Char) : (s ++ t).toList ≠ '.' :: dots := by
    rw [String.toList_append, hs, List.cons_append]
    intro e
    exact hfirst (List.cons.inj e).1
  exact ⟨fun e => hne [] (e ▸ rfl), fun e => hne ['.'] (e ▸ rfl)⟩

theorem IsModuleName.ne_dots {s : String} (h : IsModuleName s.toList) : s ≠ "." ∧ s ≠ ".." := by
  have := append_ne_dots h ""
  rwa [String.append_empty] at this

/-- The file of a module has another name than the file that lists modules. -/
theorem IsModuleName.ne_listFileName {s : String} (h : IsModuleName s.toList) :
    s ++ ".rs" ≠ listFileName := by
  rw [show listFileName = "mod" ++ ".rs" from rfl, Ne, String.append_left_inj]
  rintro rfl
  exact absurd h.free (by decide)

/-! ## Places -/

namespace ModulePath

/-- The place is made of names of modules. -/
structure WellFormed (p : ModulePath) : Prop where
  directories : ∀ d ∈ p.directories, IsModuleName d.toList
  stem : IsModuleName p.stem.toList

variable {p : ModulePath} {d : Location} {c : String}

theorem file_eq_concat_iff : p.file = d ++ [c ++ ".rs"] ↔ p.directories = d ∧ p.stem = c := by
  rw [file, List.append_singleton_inj, String.append_left_inj]

theorem file_injective : Function.Injective file := by
  rintro ⟨_, _⟩ ⟨_, _⟩ h
  obtain ⟨rfl, rfl⟩ := file_eq_concat_iff.1 h
  rfl

/-- The locations above a module are its directories. -/
theorem prefix_directories_iff : d <+: p.directories ↔ d <+: p.file ∧ d ≠ p.file := by
  rw [file, List.prefix_concat_iff]
  constructor
  · intro h
    refine ⟨.inr h, ?_⟩
    rintro rfl
    have hlength := h.length_le
    rw [List.length_append, List.length_singleton] at hlength
    omega
  · rintro ⟨rfl | h, hne⟩
    · exact absurd rfl hne
    · exact h

theorem WellFormed.file_ne_dots (h : p.WellFormed) : ∀ s ∈ p.file, s ≠ "." ∧ s ≠ ".." := by
  intro s hs
  rcases List.mem_append.1 hs with hs | hs
  · exact (h.directories s hs).ne_dots
  · rw [List.mem_singleton.1 hs]
    exact append_ne_dots h.stem ".rs"

theorem WellFormed.file_ne (h : p.WellFormed) (d : Location) : p.file ≠ d ++ [listFileName] := by
  rw [file, Ne, List.append_singleton_inj]
  exact fun e => h.stem.ne_listFileName e.2

end ModulePath

theorem wellFormed_of_modulePath {interface : String} {p : ModulePath}
    (h : modulePath interface = .ok p) : p.WellFormed := by
  simp only [modulePath] at h
  split at h
  next => cases h
  next hsegments =>
    split at h
    next => cases h
    next hfile =>
      cases h
      have hnil : [] ∉ splitOn '.' interface.toList := by simpa using hsegments
      constructor
      · intro d hd
        obtain ⟨s, hs, rfl⟩ := List.mem_map.1 hd
        rw [String.toList_ofList]
        have hmem := List.mem_of_mem_dropLast hs
        exact isModuleName_moduleIdent fun e => hnil (e ▸ hmem)
      · rw [String.toList_ofList]
        exact isModuleName_moduleIdent (by simpa using hfile)

/-! ## Plans -/

/-- The interfaces are placed, in their order, and no two places collide. -/
structure IsPlan (interfaces : List Interface) (placed : List Placed) : Prop where
  interfaces_eq : placed.map Placed.interface = interfaces
  path : ∀ p ∈ placed, modulePath p.interface.name = .ok p.path
  nodup : (placed.map Placed.path).Nodup
  unshadowed : ∀ p ∈ placed, ∀ q ∈ placed, ¬ p.path.asDirectory <+: q.path.directories

theorem placeAll_eq_ok {placed others : List Placed} {interfaces : List Interface}
    (h : placeAll placed interfaces = .ok others) (hnodup : (placed.map Placed.path).Nodup) :
    others.map Placed.interface = interfaces ∧
      (∀ p ∈ others, modulePath p.interface.name = .ok p.path) ∧
      ((placed ++ others).map Placed.path).Nodup := by
  induction interfaces generalizing placed others with
  | nil =>
    cases h
    exact ⟨rfl, by simp, by simpa using hnodup⟩
  | cons i rest ih =>
    rw [placeAll] at h
    split at h
    next => cases h
    next path hpath =>
      split at h
      next => cases h
      next hfree =>
        obtain ⟨later, hlater, h⟩ := bind_eq_ok.1 h
        cases h
        have hnew : path ∉ placed.map Placed.path := by
          rw [List.mem_map]
          rintro ⟨p, hp, rfl⟩
          exact List.find?_eq_none.1 hfree p hp (by simp)
        have hplaced : ((placed ++ [(⟨path, i⟩ : Placed)]).map Placed.path).Nodup := by
          rw [List.map_append, List.map_singleton, ← List.concat_eq_append]
          exact hnodup.concat hnew
        obtain ⟨hinterfaces, hpaths, hall⟩ := ih hlater hplaced
        refine ⟨by rw [List.map_cons, hinterfaces], ?_, by simpa using hall⟩
        intro p hp
        rcases List.mem_cons.1 hp with rfl | hp
        · exact hpath
        · exact hpaths p hp

theorem shadowing?_eq_none {placed : List Placed} :
    shadowing? placed = none ↔
      ∀ p ∈ placed, ∀ q ∈ placed, ¬ p.path.asDirectory <+: q.path.directories := by
  simp only [shadowing?, List.findSome?_eq_none_iff, Option.map_eq_none_iff, List.find?_eq_none,
    List.isPrefixOf_iff_prefix]

theorem plan_eq_ok {interfaces : List Interface} {placed : List Placed}
    (h : plan interfaces = .ok placed) : IsPlan interfaces placed := by
  obtain ⟨all, hall, h⟩ := bind_eq_ok.1 h
  obtain ⟨hinterfaces, hpaths, hnodup⟩ := placeAll_eq_ok hall List.nodup_nil
  split at h
  next => cases h
  next hnone =>
    cases h
    exact ⟨hinterfaces, hpaths, hnodup, shadowing?_eq_none.1 hnone⟩

theorem IsPlan.wellFormed {interfaces : List Interface} {placed : List Placed}
    (h : IsPlan interfaces placed) {p : Placed} (hp : p ∈ placed) : p.path.WellFormed :=
  wellFormed_of_modulePath (h.path p hp)

/-! ## Directories -/

theorem mem_withAbove {d l : Location} : d ∈ withAbove l ↔ d <+: l := by
  rw [withAbove, List.mem_map]
  constructor
  · rintro ⟨n, -, rfl⟩
    exact List.take_prefix n l
  · intro h
    refine ⟨d.length, ?_, (List.prefix_iff_eq_take.1 h).symm⟩
    rw [List.mem_range]
    exact Nat.lt_succ_of_le h.length_le

variable {paths : List ModulePath} {d : Location} {c : String}

theorem mem_directoriesOf :
    d ∈ directoriesOf paths ↔ d = [] ∨ ∃ p ∈ paths, d <+: p.directories := by
  simp only [directoriesOf, mem_sortUnique, List.mem_cons, List.mem_flatMap, mem_withAbove]

theorem nodup_directoriesOf (paths : List ModulePath) : (directoriesOf paths).Nodup :=
  (pairwise_sortUnique _).nodup

theorem mem_directoriesOf_of_concat (h : d ++ [c] ∈ directoriesOf paths) :
    d ∈ directoriesOf paths := by
  rcases mem_directoriesOf.1 h with h | ⟨p, hp, h⟩
  · simp at h
  · exact mem_directoriesOf.2 (.inr ⟨p, hp, (List.prefix_append d [c]).trans h⟩)

theorem IsPlan.isModuleName_of_mem {interfaces : List Interface} {placed : List Placed}
    (h : IsPlan interfaces placed) (hd : d ∈ directoriesOf (placed.map Placed.path)) :
    ∀ s ∈ d, IsModuleName s.toList := by
  rcases mem_directoriesOf.1 hd with rfl | ⟨path, hpath, habove⟩
  · simp
  · obtain ⟨p, hp, rfl⟩ := List.mem_map.1 hpath
    exact fun s hs => (h.wellFormed hp).directories s (habove.subset hs)

theorem mem_modulesIn :
    c ∈ modulesIn paths d ↔
      (∃ p ∈ paths, p.directories = d ∧ p.stem = c) ∨ d ++ [c] ∈ directoriesOf paths := by
  have hbelow (e : Location) :
      (if e.dropLast = d then e.getLast? else none) = some c ↔ e = d ++ [c] := by
    constructor
    · intro h
      split at h
      next hd =>
        rw [← hd]
        exact (List.dropLast_append_getLast? c h).symm
      next => cases h
    · rintro rfl
      simp
  rw [modulesIn, NameSet.mem_ofList, List.mem_append, List.mem_filterMap]
  simp only [hbelow, List.mem_map, List.mem_filter, decide_eq_true_eq, and_assoc, exists_eq_right]

end BusDoc.Binding
