import BusDoc.Files.Tree
import BusDoc.Proofs.Result

/-!
# What writing keeps

Making directories and writing files never takes a directory away, and changes no file but the one
that is written.

* `FilePath.goal_below`: the names below a directory lead straight to a location.
* `FilePath.crosses_iff_of_names`: a path of names leads through the locations above its goal.
* `follow_eq_ok`: where steps lead is read off the steps; the tree only decides whether they can be
  taken.
* `Frame`: all that can be different in a tree after directories were made and files written.
* `frame_makeDirectories`, `frame_write`: what the operations make different.
* `Grows`: directories stay, and so do all files that are not written.
* `grows_makeDirectories`, `grows_write`: the operations grow a tree.
* `read_write`, `Grows.read`: a file that was written is read back, in every tree that grew from
  there without writing it again; `write_of_read`: writing it again changes nothing.
-/

namespace BusDoc

open Result

/-- Where the steps of a path lead, if they can be taken. -/
def FilePath.goal (p : FilePath) : Location := p.steps.foldl stepInto []

/-- A path that goes on with names alone leads straight to them. -/
theorem FilePath.goal_below (p : FilePath) {l : Location} (h : ∀ s ∈ l, s ≠ "." ∧ s ≠ "..") :
    (p.below l).goal = p.goal ++ l := by
  have hstep : ∀ here : Location, l.foldl stepInto here = here ++ l := by
    induction l with
    | nil => simp
    | cons s l ih =>
      intro here
      obtain ⟨hdot, hdots⟩ := h s List.mem_cons_self
      rw [List.foldl_cons, ih fun x hx => h x (List.mem_cons_of_mem s hx), stepInto, if_neg hdot,
        if_neg hdots, List.append_assoc, List.singleton_append]
  rw [goal, below, List.foldl_append, hstep, goal]

/-- A path whose last step is a name leads there from where the others lead. -/
theorem FilePath.goal_concat {steps : List String} {name : String} {slash : Bool}
    (hdot : name ≠ ".") (hdots : name ≠ "..") :
    goal ⟨steps ++ [name], slash⟩ = goal ⟨steps, slash⟩ ++ [name] := by
  rw [goal, List.foldl_append, List.foldl_cons, List.foldl_nil, stepInto, if_neg hdot,
    if_neg hdots, goal]

/-- The location is where the path or a beginning of it leads. -/
def FilePath.Crosses (p : FilePath) (l : Location) : Prop :=
  ∃ way, way <+: p.steps ∧ l = goal ⟨way, false⟩

theorem FilePath.crosses_iff_of_names {p : FilePath} (h : ∀ s ∈ p.steps, s ≠ "." ∧ s ≠ "..")
    {l : Location} : p.Crosses l ↔ l <+: p.steps := by
  have hgoal {way : List String} (hway : way <+: p.steps) : goal ⟨way, false⟩ = way :=
    goal_below ⟨[], false⟩ fun s hs => h s (hway.subset hs)
  constructor
  · rintro ⟨way, hway, rfl⟩
    rwa [hgoal hway]
  · intro hl
    exact ⟨l, hl, (hgoal hl).symm⟩

namespace FileTree

variable {t u v : FileTree} {p : FilePath} {l : Location}

/-! ## Following paths -/

theorem directoryFault?_eq_none : t.directoryFault? l = none ↔ t.node? l = some .directory := by
  unfold directoryFault?
  cases t.node? l with
  | none => simp
  | some n => cases n <;> simp

theorem directory_eq_ok :
    t.directory p = .ok l ↔ t.locate p = .ok l ∧ t.node? l = some .directory := by
  unfold directory
  rw [bind_eq_ok]
  constructor
  · rintro ⟨l', hl, h⟩
    split at h
    next => cases h
    next hdir =>
      cases h
      exact ⟨hl, directoryFault?_eq_none.1 hdir⟩
  · rintro ⟨hl, hdir⟩
    exact ⟨l, hl, by rw [directoryFault?_eq_none.2 hdir]; rfl⟩

theorem follow_cons_eq_ok {here : Location} {step : String} {rest : List String} :
    t.follow here (step :: rest) = .ok l ↔
      t.node? here = some .directory ∧ step.utf8ByteSize ≤ nameLimit ∧
        t.follow (stepInto here step) rest = .ok l := by
  rw [follow, ← directoryFault?_eq_none]
  cases t.directoryFault? here with
  | some fault => simp
  | none =>
    by_cases h : nameLimit < step.utf8ByteSize
    · simp [h, Nat.not_le_of_lt h]
    · simp [h, Nat.le_of_not_lt h]

theorem follow_eq_ok {here : Location} {steps : List String} (h : t.follow here steps = .ok l) :
    l = steps.foldl stepInto here := by
  induction steps generalizing here with
  | nil => exact (Except.ok.inj h).symm
  | cons step rest ih => exact ih (follow_cons_eq_ok.1 h).2.2

theorem locate_eq_ok :
    t.locate p = .ok l ↔ pathFault? p = none ∧ t.follow [] p.steps = .ok l := by
  unfold locate
  cases pathFault? p <;> simp

theorem goal_of_locate (h : t.locate p = .ok l) : l = p.goal := follow_eq_ok (locate_eq_ok.1 h).2

/-! ## Frames -/

/-- What can happen at a location: nothing, or a directory is made where nothing stood, or a file is
written where no directory stood. -/
inductive Change (made written : Location → Prop) (l : Location) : Option Node → Option Node → Prop
  | kept (n : Option Node) : Change made written l n n
  | made : made l → Change made written l none (some .directory)
  | written {n : Option Node} (c : Content) : written l → n ≠ some .directory →
      Change made written l n (some (.file c))

/-- The trees differ only in directories made and files written at such locations. -/
def Frame (made written : Location → Prop) (t u : FileTree) : Prop :=
  ∀ l, Change made written l (t.node? l) (u.node? l)

section Frame

variable {made written : Location → Prop}

theorem Change.trans {n m k : Option Node} (h₁ : Change made written l n m)
    (h₂ : Change made written l m k) : Change made written l n k := by
  cases h₂ with
  | kept => exact h₁
  | made hm =>
    cases h₁
    exact .made hm
  | written c hw hd =>
    refine .written c hw ?_
    rintro rfl
    -- a directory stays one, so no file is written over it
    cases h₁ with
    | kept => exact hd rfl
    | written _ _ hn => exact hn rfl

theorem Change.mono {made' written' : Location → Prop} {n m : Option Node}
    (h : Change made written l n m) (hmade : ∀ l, made l → made' l)
    (hwritten : ∀ l, written l → written' l) : Change made' written' l n m := by
  cases h with
  | kept => exact .kept n
  | made hm => exact .made (hmade l hm)
  | written c hw hd => exact .written c (hwritten l hw) hd

theorem Change.of_directory {m : Option Node}
    (h : Change made written l (some .directory) m) : m = some .directory := by
  cases h with
  | kept => rfl
  | written _ _ hd => exact absurd rfl hd

theorem Change.of_made {n : Option Node} (h : Change made written l n (some .directory))
    (hn : n ≠ some .directory) : n = none ∧ made l := by
  cases h with
  | kept => exact absurd rfl hn
  | made hm => exact ⟨rfl, hm⟩

/-- Where nothing is written, files stay and no file appears. -/
theorem Change.file_iff {n m : Option Node} (h : Change made written l n m) (hl : ¬ written l)
    (c : Content) : m = some (.file c) ↔ n = some (.file c) := by
  cases h with
  | kept => exact Iff.rfl
  | made => simp
  | written c' hw => exact absurd hw hl

theorem Change.eq_of_not {n m : Option Node} (h : Change made written l n m) (hm : ¬ made l)
    (hw : ¬ written l) : m = n := by
  cases h with
  | kept => rfl
  | made hmade => exact absurd hmade hm
  | written c hwritten => exact absurd hwritten hw

theorem Frame.refl (made written : Location → Prop) (t : FileTree) : Frame made written t t :=
  fun _ => .kept _

theorem Frame.trans (h₁ : Frame made written t u) (h₂ : Frame made written u v) :
    Frame made written t v := fun l => (h₁ l).trans (h₂ l)

theorem Frame.mono {made' written' : Location → Prop} (h : Frame made written t u)
    (hmade : ∀ l, made l → made' l) (hwritten : ∀ l, written l → written' l) :
    Frame made' written' t u := fun l => (h l).mono hmade hwritten

/-- A node put at one location is the only difference. -/
theorem frame_put {n : Node} (h : Change made written l (t.node? l) (some n)) (hl : l ≠ []) :
    Frame made written t (t.put l n) := by
  intro l'
  by_cases e : l = l'
  · subst e
    rwa [node?_put t n hl]
  · rw [node?_put_of_ne t n e]
    exact .kept _

end Frame

/-! ## Making directories -/

theorem ne_nil_of_node?_ne (h : t.node? l ≠ some .directory) : l ≠ [] := by
  rintro rfl
  exact h rfl

theorem frame_makeDirectory (h : t.makeDirectory p = .ok u) :
    Frame (· = p.goal) (fun _ => False) t u := by
  obtain ⟨l, hl, h⟩ := bind_eq_ok.1 h
  split at h
  next => cases h
  next hfree =>
    cases h
    have hnone : t.node? l = none := by simpa using hfree
    have hne : t.node? l ≠ some .directory := by simp [hnone]
    refine frame_put ?_ (ne_nil_of_node?_ne hne)
    rw [hnone]
    exact .made (goal_of_locate hl)

theorem frame_ensureDirectory (h : t.ensureDirectory p = .ok u) :
    Frame (· = p.goal) (fun _ => False) t u := by
  unfold ensureDirectory at h
  split at h
  next made =>
    cases h
    exact frame_makeDirectory made
  next =>
    split at h
    next => cases h; exact .refl _ _ t
    next => cases h

theorem frame_makeDirectoriesBack (t : FileTree) (back : List String) :
    Frame (FilePath.Crosses ⟨back.reverse, false⟩) (fun _ => False) t
      (t.makeDirectoriesBack back).2 := by
  induction back generalizing t with
  | nil => exact .refl _ _ t
  | cons step back ih =>
    have hlast {u v : FileTree} (h : u.ensureDirectory ⟨(step :: back).reverse, false⟩ = .ok v) :
        Frame (FilePath.Crosses ⟨(step :: back).reverse, false⟩) (fun _ => False) u v :=
      (frame_ensureDirectory h).mono (fun l hl => ⟨_, List.prefix_refl _, hl⟩) fun _ => id
    have hback : Frame (FilePath.Crosses ⟨(step :: back).reverse, false⟩) (fun _ => False) t
        (t.makeDirectoriesBack back).2 := by
      refine (ih t).mono ?_ fun _ => id
      rintro l ⟨way, hway, rfl⟩
      exact ⟨way, hway.trans (by simp), rfl⟩
    rw [makeDirectoriesBack]
    split
    next made => exact hlast made
    next =>
      split
      next made => rwa [made] at hback
      next u made =>
        rw [made] at hback
        split
        next again => exact hback.trans (hlast again)
        next => exact hback
    next => exact .refl _ _ t

theorem frame_makeDirectories {r : Except FileFault Unit} (h : t.makeDirectories p = (r, u)) :
    Frame p.Crosses (fun _ => False) t u := by
  have hback := frame_makeDirectoriesBack t p.steps.reverse
  rwa [List.reverse_reverse,
    show t.makeDirectoriesBack p.steps.reverse = (r, u) from h] at hback

/-! ## Files -/

theorem read_eq_ok {s : String} :
    t.read p = .ok s ↔
      p.slash = false ∧ ∃ l, t.locate p = .ok l ∧ t.node? l = some (.file (.text s)) := by
  unfold read find
  cases hslash : p.slash with
  | true =>
    -- with a slash at its end the path names a directory, which holds no text
    simp only [if_true, Bool.true_eq_false, false_and, iff_false]
    intro h
    obtain ⟨l, hl, h⟩ := bind_eq_ok.1 h
    obtain ⟨l', -, hl⟩ := bind_eq_ok.1 hl
    split at hl
    next => cases hl
    next hdir =>
      cases hl
      rw [directoryFault?_eq_none.1 hdir] at h
      cases h
  | false =>
    simp only [Bool.false_eq_true, if_false, true_and]
    rw [bind_eq_ok]
    constructor
    · rintro ⟨l, hl, h⟩
      obtain ⟨l', hlocate, hl⟩ := bind_eq_ok.1 hl
      split at hl
      next =>
        cases hl
        refine ⟨l, hlocate, ?_⟩
        split at h
        next hnode => cases h; exact hnode
        all_goals cases h
      next => cases hl
    · rintro ⟨l, hlocate, hnode⟩
      refine ⟨l, ?_, by rw [hnode]⟩
      rw [hlocate]
      show (if (t.node? l).isSome then _ else _) = _
      rw [hnode]
      rfl

theorem write_eq_ok {c : Content} (hslash : p.slash = false) :
    t.write p c = .ok u ↔
      ∃ l, t.locate p = .ok l ∧ t.node? l ≠ some .directory ∧ u = t.put l (.file c) := by
  unfold write placeOf
  rw [bind_eq_ok]
  cases hfault : pathFault? p with
  | some fault =>
    have hlocate : ¬ ∃ l, t.locate p = .ok l := by
      rintro ⟨l, h⟩
      rw [(locate_eq_ok.1 h).1] at hfault
      cases hfault
    constructor
    · rintro ⟨l, h, -⟩
      cases h
    · rintro ⟨l, h, -⟩
      exact absurd ⟨l, h⟩ hlocate
  | none =>
    simp only [hslash, Bool.false_eq_true, if_false, bind_eq_ok]
    constructor
    · rintro ⟨l, ⟨l', hl, h⟩, hput⟩
      split at h
      next => cases h
      next hnode =>
        cases h
        cases hput
        exact ⟨l, hl, hnode, rfl⟩
    · rintro ⟨l, hl, hnode, rfl⟩
      exact ⟨l, ⟨l, hl, by rw [if_neg hnode]; rfl⟩, rfl⟩

/-- A path with a slash at its end has no file written. -/
theorem slash_of_write {c : Content} (h : t.write p c = .ok u) : p.slash = false := by
  obtain ⟨l, hplace, -⟩ := bind_eq_ok.1 h
  unfold placeOf at hplace
  split at hplace
  next => cases hplace
  next =>
    split at hplace
    next =>
      obtain ⟨_, -, hplace⟩ := bind_eq_ok.1 hplace
      cases hplace
    next hslash => exact Bool.not_eq_true _ ▸ hslash

theorem frame_write {c : Content} (hslash : p.slash = false) (h : t.write p c = .ok u) :
    Frame (fun _ => False) (· = p.goal) t u := by
  obtain ⟨l, hl, hnode, rfl⟩ := (write_eq_ok hslash).1 h
  exact frame_put (.written c (goal_of_locate hl) hnode) (ne_nil_of_node?_ne hnode)

/-! ## Growing trees -/

/-- Directories stay directories, and files that are not written keep what they hold. -/
structure Grows (written : List Location) (t u : FileTree) : Prop where
  directory : ∀ {l}, t.node? l = some .directory → u.node? l = some .directory
  file : ∀ {l c}, t.node? l = some (.file c) → l ∉ written → u.node? l = some (.file c)

theorem Grows.refl (t : FileTree) : Grows [] t t := ⟨id, fun h _ => h⟩

theorem Grows.trans {ls ms : List Location} (h₁ : Grows ls t u) (h₂ : Grows ms u v) :
    Grows (ls ++ ms) t v where
  directory h := h₂.directory (h₁.directory h)
  file h hl := by
    rw [List.mem_append, not_or] at hl
    exact h₂.file (h₁.file h hl.1) hl.2

theorem Grows.mono {ls ms : List Location} (h : Grows ls t u) (hsub : ls ⊆ ms) : Grows ms t u :=
  ⟨h.directory, fun hf hl => h.file hf fun hm => hl (hsub hm)⟩

theorem Frame.grows {made written : Location → Prop} {ls : List Location}
    (h : Frame made written t u) (hls : ∀ l, written l → l ∈ ls) : Grows ls t u where
  directory {l} hd := (hd ▸ h l).of_directory
  file {l c} hf hl := ((h l).file_iff (mt (hls l) hl) c).2 hf

theorem grows_makeDirectories {r : Except FileFault Unit} (h : t.makeDirectories p = (r, u)) :
    Grows [] t u := (frame_makeDirectories h).grows fun _ => False.elim

theorem grows_write {c : Content} (hslash : p.slash = false) (h : t.write p c = .ok u) :
    Grows [p.goal] t u := (frame_write hslash h).grows fun _ => List.mem_singleton.2

/-! ## Reading in a tree that grew -/

section

variable (h : ∀ {l}, t.node? l = some .directory → u.node? l = some .directory)
include h

/-- Where directories stay, steps lead where they led. -/
theorem follow_of_directories {here : Location} {steps : List String}
    (hf : t.follow here steps = .ok l) : u.follow here steps = .ok l := by
  induction steps generalizing here with
  | nil => exact hf
  | cons step rest ih =>
    obtain ⟨hhere, hsize, hrest⟩ := follow_cons_eq_ok.1 hf
    exact follow_cons_eq_ok.2 ⟨h hhere, hsize, ih hrest⟩

theorem locate_of_directories (hl : t.locate p = .ok l) : u.locate p = .ok l :=
  locate_eq_ok.2 ⟨(locate_eq_ok.1 hl).1, follow_of_directories h (locate_eq_ok.1 hl).2⟩

theorem directory_of_directories (hl : t.directory p = .ok l) : u.directory p = .ok l :=
  directory_eq_ok.2
    ⟨locate_of_directories h (directory_eq_ok.1 hl).1, h (directory_eq_ok.1 hl).2⟩

end

theorem Grows.locate {ls : List Location} (h : Grows ls t u) (hl : t.locate p = .ok l) :
    u.locate p = .ok l := locate_of_directories h.directory hl

theorem Grows.read {ls : List Location} {s : String} (h : Grows ls t u) (hr : t.read p = .ok s)
    (hp : p.goal ∉ ls) : u.read p = .ok s := by
  obtain ⟨hslash, l, hl, hnode⟩ := read_eq_ok.1 hr
  exact read_eq_ok.2 ⟨hslash, l, h.locate hl, h.file hnode (goal_of_locate hl ▸ hp)⟩

theorem read_write {s : String} (hslash : p.slash = false) (h : t.write p (.text s) = .ok u) :
    u.read p = .ok s := by
  have hgrows := grows_write hslash h
  obtain ⟨l, hl, hnode, rfl⟩ := (write_eq_ok hslash).1 h
  exact read_eq_ok.2 ⟨hslash, l, hgrows.locate hl, node?_put t _ (ne_nil_of_node?_ne hnode)⟩

/-- Writing the text that a file holds changes nothing. -/
theorem write_of_read {s : String} (h : t.read p = .ok s) : t.write p (.text s) = .ok t := by
  obtain ⟨hslash, l, hl, hnode⟩ := read_eq_ok.1 h
  have hfile : t.node? l ≠ some .directory := by simp [hnode]
  refine (write_eq_ok hslash).2 ⟨l, hl, hfile, (put_self hnode ?_).symm⟩
  exact ne_nil_of_node?_ne hfile

end FileTree

end BusDoc
