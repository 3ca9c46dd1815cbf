import BusDoc.Proofs.Files.Growth
import Mathlib.Data.List.Infix

/-!
# What can be made and written

Whether directories can be made along a path is read off the path and the files on its way; what is
missing on the way does not matter. A file can be written behind them unless a directory stands in
its place, or has to be made there.

* `follow_eq_ok_iff`, `locate_eq_ok_iff`: steps can be taken if every step starts at a directory and
  is short enough.
* `notFound_of_ensureDirectory`: on a way without files only something missing can be in the way.
* `exists_makeDirectories`, `directory_of_makeDirectories`: then directories can be made, and they
  stand all along the path.
* `writable_iff`: when a file can be written after that.
-/

namespace BusDoc

open Result

/-- No step of the path is too long for a name. -/
def FilePath.Short (p : FilePath) : Prop := ∀ s ∈ p.steps, s.utf8ByteSize ≤ FileTree.nameLimit

theorem FilePath.crosses_goal (p : FilePath) : p.Crosses p.goal :=
  ⟨p.steps, List.prefix_refl _, rfl⟩

namespace FileTree

variable {t u v : FileTree} {p : FilePath} {l here : Location} {steps : List String}

/-- No file stands on the way of the path or at its end. -/
def Clear (t : FileTree) (p : FilePath) : Prop := ∀ l, p.Crosses l → ∀ c, t.node? l ≠ some (.file c)

/-! ## Following paths -/

theorem follow_eq_ok_iff :
    t.follow here steps = .ok l ↔
      l = steps.foldl stepInto here ∧ (∀ s ∈ steps, s.utf8ByteSize ≤ nameLimit) ∧
        ∀ way, way <+: steps → way ≠ steps →
          t.node? (way.foldl stepInto here) = some .directory := by
  induction steps generalizing here with
  | nil =>
    constructor
    · intro h
      exact ⟨follow_eq_ok h, by simp, fun way hway hne => absurd (List.prefix_nil.1 hway) hne⟩
    · rintro ⟨rfl, -⟩
      rfl
  | cons step rest ih =>
    rw [follow_cons_eq_ok, ih, List.forall_mem_cons]
    constructor
    · rintro ⟨hhere, hstep, hl, hrest, hways⟩
      refine ⟨hl, ⟨hstep, hrest⟩, fun way hway hne => ?_⟩
      rcases List.prefix_cons_iff.1 hway with rfl | ⟨later, rfl, hlater⟩
      · exact hhere
      · exact hways later hlater fun e => hne (e ▸ rfl)
    · rintro ⟨hl, ⟨hstep, hrest⟩, hways⟩
      refine ⟨hways [] (List.nil_prefix) (by simp), hstep, hl, hrest, fun later hlater hne => ?_⟩
      have hway : step :: later <+: step :: rest :=
        List.prefix_cons_iff.2 (.inr ⟨later, rfl, hlater⟩)
      exact hways (step :: later) hway (by simpa using hne)

/-- Where no file is on the way, steps can only fail because something is missing. -/
theorem notFound_of_follow {e : FileFault} (hshort : ∀ s ∈ steps, s.utf8ByteSize ≤ nameLimit)
    (hclear : ∀ way, way <+: steps → ∀ c, t.node? (way.foldl stepInto here) ≠ some (.file c))
    (h : t.follow here steps = .error e) : e = .notFound := by
  induction steps generalizing here with
  | nil => cases h
  | cons step rest ih =>
    obtain ⟨hstep, hrest⟩ := List.forall_mem_cons.1 hshort
    rw [follow] at h
    split at h
    next fault hfault =>
      cases h
      unfold directoryFault? at hfault
      split at hfault
      next => cases hfault
      next c hc => exact absurd hc (hclear [] List.nil_prefix c)
      next => exact (Option.some.inj hfault).symm
    next =>
      rw [if_neg (Nat.not_lt.2 hstep)] at h
      refine ih hrest (fun way hway => ?_) h
      exact hclear (step :: way) (List.prefix_cons_iff.2 (.inr ⟨way, rfl, hway⟩))

/-! ## One directory -/

theorem makeDirectory_eq_ok :
    t.makeDirectory p = .ok u ↔
      t.locate p = .ok p.goal ∧ t.node? p.goal = none ∧ u = t.put p.goal .directory := by
  rw [makeDirectory, bind_eq_ok]
  constructor
  · rintro ⟨l, hl, h⟩
    rw [← goal_of_locate hl]
    split at h
    next => cases h
    next hfree =>
      cases h
      exact ⟨hl, by simpa using hfree, rfl⟩
  · rintro ⟨hl, hfree, rfl⟩
    exact ⟨p.goal, hl, by rw [hfree]; rfl⟩

theorem isDirectory_iff :
    t.isDirectory p = true ↔ t.locate p = .ok p.goal ∧ t.node? p.goal = some .directory := by
  rw [isDirectory, directory, ← directoryFault?_eq_none]
  cases hl : t.locate p with
  | error e => simp [bind, Except.bind, Except.isOk, Except.toBool]
  | ok l =>
    rw [goal_of_locate hl]
    cases hfault : t.directoryFault? p.goal with
    | none => simp [bind, Except.bind, Except.isOk, Except.toBool, hfault, pure, Except.pure]
    | some fault => simp [bind, Except.bind, Except.isOk, Except.toBool, hfault]

theorem ensureDirectory_eq_ok :
    t.ensureDirectory p = .ok u ↔ t.locate p = .ok p.goal ∧
      (t.node? p.goal = none ∧ u = t.put p.goal .directory ∨
        t.node? p.goal = some .directory ∧ u = t) := by
  unfold ensureDirectory
  cases hmade : t.makeDirectory p with
  | ok v =>
    obtain ⟨hl, hfree, rfl⟩ := makeDirectory_eq_ok.1 hmade
    simp [hl, hfree, eq_comm]
  | error fault =>
    have hnot (hl : t.locate p = .ok p.goal) : t.node? p.goal ≠ none := by
      intro hfree
      rw [makeDirectory_eq_ok.2 ⟨hl, hfree, rfl⟩] at hmade
      cases hmade
    by_cases hdir : t.isDirectory p
    · obtain ⟨hl, hnode⟩ := isDirectory_iff.1 hdir
      simp [hdir, hl, hnode, eq_comm]
    · refine iff_of_false (by simp [hdir]) ?_
      rintro ⟨hl, ⟨hfree, -⟩ | ⟨hnode, -⟩⟩
      · exact hnot hl hfree
      · exact hdir (isDirectory_iff.2 ⟨hl, hnode⟩)

theorem exists_ensureDirectory_iff :
    (∃ u, t.ensureDirectory p = .ok u) ↔
      t.locate p = .ok p.goal ∧ ∀ c, t.node? p.goal ≠ some (.file c) := by
  simp only [ensureDirectory_eq_ok, exists_and_left]
  refine and_congr_right fun _ => ?_
  cases hnode : t.node? p.goal with
  | none => simp
  | some n => cases n <;> simp

theorem node?_of_ensureDirectory (h : t.ensureDirectory p = .ok u) :
    u.node? p.goal = some .directory := by
  obtain ⟨-, ⟨hfree, rfl⟩ | ⟨hnode, rfl⟩⟩ := ensureDirectory_eq_ok.1 h
  · exact node?_put t .directory (ne_nil_of_node?_ne (t := t) (by simp [hfree]))
  · exact hnode

theorem notFound_of_ensureDirectory {e : FileFault} (hpath : pathFault? p = none) (hshort : p.Short)
    (hclear : t.Clear p) (h : t.ensureDirectory p = .error e) : e = .notFound := by
  have hnot : ¬ t.locate p = .ok p.goal := fun hl => by
    obtain ⟨u, hu⟩ := exists_ensureDirectory_iff.2 ⟨hl, hclear _ p.crosses_goal⟩
    rw [hu] at h
    cases h
  have hfollow {e' : FileFault} (hl : t.locate p = .error e') : e' = .notFound := by
    rw [locate, hpath] at hl
    exact notFound_of_follow hshort (fun way hway c => hclear _ ⟨way, hway, rfl⟩ c) hl
  cases hl : t.locate p with
  | ok l => exact absurd (goal_of_locate hl ▸ hl) hnot
  | error e' =>
    have hdir : t.isDirectory p = false := by
      rw [Bool.eq_false_iff]
      exact fun hdir => hnot (isDirectory_iff.1 hdir).1
    have hmade : t.makeDirectory p = .error e' := by rw [makeDirectory, hl]; rfl
    simp only [ensureDirectory, hmade, hdir, Bool.false_eq_true, if_false] at h
    rw [← Except.error.inj h]
    exact hfollow hl

/-! ## All directories on the way -/

theorem pathFault?_eq_none_iff :
    pathFault? p = none ↔ (∀ s ∈ p.steps, '\x00' ∉ s.toList) ∧ (p.steps = [] → p.slash = true) ∧
      p.size ≤ pathLimit := by
  unfold pathFault?
  constructor
  · intro h
    split at h
    next => cases h
    next hchars =>
      split at h
      next => cases h
      next hempty =>
        split at h
        next => cases h
        next hsize => exact ⟨by simpa using hchars, by simpa using hempty, Nat.not_lt.1 hsize⟩
  · rintro ⟨hchars, hempty, hsize⟩
    rw [if_neg (by simpa using hchars), if_neg (by simpa using hempty), if_neg (Nat.not_lt.2 hsize)]

/-- The path without its last step is no worse. -/
theorem pathFault?_of_concat {way : List String} {step : String} (hway : way ≠ [])
    (h : pathFault? ⟨way ++ [step], false⟩ = none) : pathFault? ⟨way, false⟩ = none := by
  obtain ⟨hchars, -, hsize⟩ := pathFault?_eq_none_iff.1 h
  have hlonger : FilePath.size ⟨way ++ [step], false⟩ =
      FilePath.size ⟨way, false⟩ + 1 + step.utf8ByteSize := by
    simp [FilePath.size]
  refine pathFault?_eq_none_iff.2 ⟨fun s hs => hchars s (List.mem_append_left _ hs),
    fun hnil => absurd hnil hway, ?_⟩
  omega

/-- What made the last directory is the last step of making them all. -/
theorem ensured_of_makeDirectoriesBack {step : String} {back : List String}
    (h : t.makeDirectoriesBack (step :: back) = (.ok (), u)) :
    ∃ v : FileTree, v.ensureDirectory ⟨(step :: back).reverse, false⟩ = .ok u := by
  rw [makeDirectoriesBack] at h
  split at h
  next made =>
    cases h
    exact ⟨t, made⟩
  next =>
    split at h
    next => cases h
    next v made =>
      split at h
      next again =>
        cases h
        exact ⟨v, again⟩
      next => cases h
  next => cases h

theorem directory_of_ensureDirectory (h : t.ensureDirectory p = .ok u) (hl : p.Crosses l) :
    u.node? l = some .directory := by
  obtain ⟨way, hway, rfl⟩ := hl
  by_cases hend : way = p.steps
  · subst hend
    exact (node?_of_ensureDirectory h :)
  · have hlocate := (ensureDirectory_eq_ok.1 h).1
    obtain ⟨-, -, hways⟩ := follow_eq_ok_iff.1 (locate_eq_ok.1 hlocate).2
    have hgrows : Grows [] t u := (frame_ensureDirectory h).grows fun _ => False.elim
    exact hgrows.directory (hways way hway hend)

/-- Making directories leaves a path as clear as it was. -/
theorem Frame.clear {made : Location → Prop} (h : Frame made (fun _ => False) t u)
    (ht : t.Clear p) : u.Clear p := fun l hl c hc => ht l hl c (((h l).file_iff id c).1 hc)

theorem directory_of_makeDirectoriesBack {back : List String}
    (h : t.makeDirectoriesBack back = (.ok (), u)) (hl : FilePath.Crosses ⟨back.reverse, false⟩ l) :
    u.node? l = some .directory := by
  cases back with
  | nil =>
    obtain ⟨way, hway, rfl⟩ := hl
    rw [List.prefix_nil.1 hway]
    rfl
  | cons step back =>
    obtain ⟨v, hv⟩ := ensured_of_makeDirectoriesBack h
    exact directory_of_ensureDirectory hv hl

/-- A directory can be made if all directories on the way are there. -/
theorem exists_ensureDirectory_concat {way : List String} {step : String}
    (hpath : pathFault? ⟨way ++ [step], false⟩ = none)
    (hshort : FilePath.Short ⟨way ++ [step], false⟩)
    (hclear : t.Clear ⟨way ++ [step], false⟩)
    (hway : ∀ l, FilePath.Crosses ⟨way, false⟩ l → t.node? l = some .directory) :
    ∃ u, t.ensureDirectory ⟨way ++ [step], false⟩ = .ok u := by
  refine exists_ensureDirectory_iff.2 ⟨?_, hclear _ (FilePath.crosses_goal _)⟩
  refine locate_eq_ok.2 ⟨hpath, follow_eq_ok_iff.2 ⟨rfl, hshort, fun before hbefore hne => ?_⟩⟩
  rcases List.prefix_concat_iff.1 hbefore with heq | hbefore
  · exact absurd heq hne
  · exact hway _ ⟨before, hbefore, rfl⟩

theorem exists_makeDirectoriesBack {back : List String}
    (hpath : back ≠ [] → pathFault? ⟨back.reverse, false⟩ = none)
    (hshort : FilePath.Short ⟨back.reverse, false⟩) (hclear : t.Clear ⟨back.reverse, false⟩) :
    ∃ u, t.makeDirectoriesBack back = (.ok (), u) := by
  induction back with
  | nil => exact ⟨t, rfl⟩
  | cons step back ih =>
    have hpath := hpath (List.cons_ne_nil step back)
    cases hmade : t.ensureDirectory ⟨(step :: back).reverse, false⟩ with
    | ok u => exact ⟨u, by simp only [makeDirectoriesBack, hmade]⟩
    | error e =>
      -- something is missing on the way; once that is made, the last step finds directories only
      obtain rfl := notFound_of_ensureDirectory hpath hshort hclear hmade
      rw [List.reverse_cons] at hpath hshort hclear
      have hfront : t.Clear ⟨back.reverse, false⟩ := by
        rintro l ⟨way, hway, hl⟩
        exact hclear l ⟨way, hway.trans (List.prefix_append _ _), hl⟩
      obtain ⟨v, hv⟩ := ih (fun hback => pathFault?_of_concat (by simpa using hback) hpath)
        (fun s hs => hshort s (List.mem_append_left _ hs)) hfront
      have hframe := frame_makeDirectoriesBack t back
      rw [hv] at hframe
      obtain ⟨w, hw⟩ := exists_ensureDirectory_concat hpath hshort (hframe.clear hclear)
        fun l hl => directory_of_makeDirectoriesBack hv hl
      rw [← List.reverse_cons] at hw
      exact ⟨w, by simp only [makeDirectoriesBack, hmade, hv, hw]⟩

theorem exists_makeDirectories (hpath : p.steps ≠ [] → pathFault? ⟨p.steps, false⟩ = none)
    (hshort : p.Short) (hclear : t.Clear p) : ∃ u, t.makeDirectories p = (.ok (), u) := by
  have hback : p.steps.reverse.reverse = p.steps := List.reverse_reverse _
  refine exists_makeDirectoriesBack (fun hne => ?_) ?_ ?_
  · rw [hback]
    exact hpath (by simpa using hne)
  · rwa [hback]
  · rwa [hback]

theorem directory_of_makeDirectories (h : t.makeDirectories p = (.ok (), u)) (hl : p.Crosses l) :
    u.node? l = some .directory :=
  directory_of_makeDirectoriesBack h (by rwa [List.reverse_reverse])

theorem clear_of_makeDirectories (h : t.makeDirectories p = (.ok (), u)) : t.Clear p := by
  intro l hl c hc
  have hfile := (grows_makeDirectories h).file hc List.not_mem_nil
  rw [directory_of_makeDirectories h hl] at hfile
  cases hfile

/-! ## Files -/

theorem prefix_dropLast_iff {way : List String} (hsteps : steps ≠ []) :
    way <+: steps.dropLast ↔ way <+: steps ∧ way ≠ steps := by
  obtain ⟨before, last, rfl⟩ := (List.eq_nil_or_concat steps).resolve_left hsteps
  rw [List.concat_eq_append, List.dropLast_concat, List.prefix_concat_iff]
  constructor
  · intro h
    refine ⟨.inr h, ?_⟩
    rintro rfl
    have hlength := h.length_le
    rw [List.length_append, List.length_singleton] at hlength
    omega
  · rintro ⟨heq | h, hne⟩
    · exact absurd heq hne
    · exact h

/-- A path can be followed if directories stand all along the way to its last step. -/
theorem locate_eq_ok_iff (hp : p.steps ≠ []) :
    t.locate p = .ok p.goal ↔ pathFault? p = none ∧ p.Short ∧
      ∀ l, p.parent.Crosses l → t.node? l = some .directory := by
  have hbefore (way : List String) : way <+: p.parent.steps ↔ way <+: p.steps ∧ way ≠ p.steps :=
    prefix_dropLast_iff hp
  rw [locate_eq_ok, follow_eq_ok_iff]
  refine and_congr_right fun _ => ?_
  constructor
  · rintro ⟨-, hshort, hways⟩
    refine ⟨hshort, ?_⟩
    rintro l ⟨way, hway, rfl⟩
    exact hways way ((hbefore way).1 hway).1 ((hbefore way).1 hway).2
  · rintro ⟨hshort, hways⟩
    exact ⟨rfl, hshort, fun way hway hne => hways _ ⟨way, (hbefore way).2 ⟨hway, hne⟩, rfl⟩⟩

theorem find_eq_ok (hslash : p.slash = false) :
    t.find p = .ok l ↔ t.locate p = .ok l ∧ t.node? l ≠ none := by
  rw [find, hslash, if_neg Bool.false_ne_true, bind_eq_ok]
  constructor
  · rintro ⟨m, hm, h⟩
    split at h
    next hnode =>
      cases h
      exact ⟨hm, Option.isSome_iff_ne_none.1 hnode⟩
    next => cases h
  · rintro ⟨hl, hnode⟩
    exact ⟨l, hl, by rw [if_pos (Option.isSome_iff_ne_none.2 hnode)]; rfl⟩

/-- A file can be written where the path leads, after directories were made on the way, if no file
stands there. -/
structure Writable (t : FileTree) (p : FilePath) : Prop where
  path : pathFault? p = none
  short : p.Short
  clear : t.Clear p.parent
  /-- The way to the file does not lead through the place of the file. -/
  apart : ¬ p.parent.Crosses p.goal
  free : t.node? p.goal ≠ some .directory

theorem exists_write_iff {c : Content} (hslash : p.slash = false) :
    (∃ u, t.write p c = .ok u) ↔ t.locate p = .ok p.goal ∧ t.node? p.goal ≠ some .directory := by
  simp only [write_eq_ok hslash]
  constructor
  · rintro ⟨u, l, hl, hnode, -⟩
    obtain rfl := goal_of_locate hl
    exact ⟨hl, hnode⟩
  · rintro ⟨hl, hnode⟩
    exact ⟨_, p.goal, hl, hnode, rfl⟩

theorem pathFault?_parent (hpath : pathFault? p = none) (hslash : p.slash = false)
    (hp : p.parent.steps ≠ []) : pathFault? p.parent = none := by
  obtain ⟨steps, slash⟩ := p
  cases hslash
  rcases List.eq_nil_or_concat steps with rfl | ⟨before, last, rfl⟩
  · exact absurd rfl hp
  · simp only [FilePath.parent, List.concat_eq_append, List.dropLast_concat] at hp hpath ⊢
    exact pathFault?_of_concat hp hpath

theorem writable_iff {c : Content} (hp : p.steps ≠ []) (hslash : p.slash = false) :
    t.Writable p ↔ ∃ v u, t.makeDirectories p.parent = (.ok (), v) ∧ v.write p c = .ok u := by
  constructor
  · intro h
    have hshort : p.parent.Short := fun s hs => h.short s (List.mem_of_mem_dropLast hs)
    obtain ⟨v, hv⟩ := exists_makeDirectories (pathFault?_parent h.path hslash) hshort h.clear
    have hlocate : v.locate p = .ok p.goal :=
      (locate_eq_ok_iff hp).2 ⟨h.path, h.short, fun l => directory_of_makeDirectories hv⟩
    have hfree : v.node? p.goal ≠ some .directory := fun hnode =>
      h.apart ((hnode ▸ frame_makeDirectories hv p.goal).of_made h.free).2
    obtain ⟨u, hu⟩ := (exists_write_iff hslash).2 ⟨hlocate, hfree⟩
    exact ⟨v, u, hv, hu⟩
  · rintro ⟨v, u, hv, hu⟩
    obtain ⟨hlocate, hfree⟩ := (exists_write_iff hslash).1 ⟨u, hu⟩
    obtain ⟨hpath, hshort, -⟩ := (locate_eq_ok_iff hp).1 hlocate
    exact {
      path := hpath
      short := hshort
      clear := clear_of_makeDirectories hv
      apart := fun hcross => hfree (directory_of_makeDirectories hv hcross)
      free := fun hnode => hfree ((grows_makeDirectories hv).directory hnode) }

end FileTree

end BusDoc
