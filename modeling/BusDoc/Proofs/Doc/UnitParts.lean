import BusDoc.Doc.Unit
import BusDoc.Proofs.Result

/-!
# The parts of a unit

A range of lines is read in two stages: it is taken apart into its title, its header lines and
its sections, and these are read.

* `unitOfLines_eq`: the two stages.
* `unitOfParts_eq_ok_some`: when the parts make a unit, and which.
* `mem_splitUnits`, `mem_of_unitOfLines`: the units of a file are those of the ranges of its lines.
* `sublist_splitUnits`: what units say stands in the order of their ranges.
-/

namespace BusDoc.Doc

open Result Text

/-- The unit of a header and sections that are read. -/
def Header.unit (h : Header) (source title : String) (sections : List (List Line)) : DocUnit where
  source := source
  title := title
  service := String.ofList h.service
  interface := String.ofList h.interface
  objectPath := String.ofList h.objectPath
  docs := String.ofList h.paragraph
  blocks := sections.flatMap sectionBlocks

/-- The unit of a title, header lines and sections. -/
def unitOfParts (source title : String) (front : List Line) (sections : List (List Line)) :
    Except ParseError (Option DocUnit) := do
  let h ← (Header.ofLines front).mapError (.malformedUnit source title)
  match h.lateFault? sections.flatten with
  | some fault => throw (.malformedUnit source title fault)
  | none =>
    if h.interface.isEmpty then
      if title = "" && sections.isEmpty then return none
      else throw (.malformedUnit source title .missingInterface)
    else return some (h.unit source title sections)

theorem unitOfLines_eq (source : String) (ls : List Line) :
    unitOfLines source ls =
      unitOfParts source (unitTitle ls) (cutBefore opensSection (unitBody ls)).1
        (cutBefore opensSection (unitBody ls)).2 := rfl

theorem unitOfParts_eq_ok_some {source title : String} {front : List Line}
    {sections : List (List Line)} {u : DocUnit} :
    unitOfParts source title front sections = .ok (some u) ↔
      ∃ h, Header.ofLines front = .ok h ∧ h.lateFault? sections.flatten = none ∧
        h.interface ≠ [] ∧ u = h.unit source title sections := by
  unfold unitOfParts
  rw [bind_eq_ok]
  refine exists_congr fun h => ?_
  rw [mapError_eq_ok]
  refine and_congr_right fun _ => ?_
  cases h.lateFault? sections.flatten with
  | some fault => simp [throw, throwThe, MonadExceptOf.throw]
  | none =>
    simp only [true_and]
    by_cases hi : h.interface = []
    · rw [if_pos (by simp [hi])]
      refine ⟨fun e => ?_, fun e => absurd hi e.1⟩
      split at e <;> cases e
    · rw [if_neg (by simpa using hi)]
      constructor
      · intro e
        cases e
        exact ⟨hi, rfl⟩
      · rintro ⟨-, rfl⟩
        rfl

/-! ## Units of a file -/

theorem mem_splitUnits {source content : String} {units : List DocUnit} {u : DocUnit}
    (h : splitUnits source content = .ok units) (hu : u ∈ units) :
    ∃ ls ∈ unitRanges (fileLines content.toList), unitOfLines source ls = .ok (some u) := by
  obtain ⟨ranges, hr, h⟩ := bind_eq_ok.1 h
  cases h
  obtain ⟨o, ho, rfl⟩ := List.mem_filterMap.1 hu
  exact mem_of_mapM_ok hr ho

theorem mem_of_unitOfLines {source content : String} {units : List DocUnit} {ls : List Line}
    {u : DocUnit} (h : splitUnits source content = .ok units)
    (hls : ls ∈ unitRanges (fileLines content.toList))
    (hu : unitOfLines source ls = .ok (some u)) : u ∈ units := by
  obtain ⟨found, hfound, hunits⟩ := bind_eq_ok.1 h
  cases hunits
  obtain ⟨o, ho, hread⟩ := exists_of_forall₂ (forall₂_of_mapM_ok hfound) hls
  cases hread.symm.trans hu
  exact List.mem_filterMap.2 ⟨_, ho, rfl⟩

/-- What units say in the order of the ranges they come from, if each says some of what its range
says. -/
theorem sublist_splitUnits {α : Type} {source content : String} {units : List DocUnit}
    {f : DocUnit → List α} {g : List Line → List α} (h : splitUnits source content = .ok units)
    (hfg : ∀ ls ∈ unitRanges (fileLines content.toList), ∀ u,
      unitOfLines source ls = .ok (some u) → (f u).Sublist (g ls)) :
    (units.flatMap f).Sublist ((unitRanges (fileLines content.toList)).flatMap g) := by
  obtain ⟨found, hfound, hunits⟩ := bind_eq_ok.1 h
  cases hunits
  have hpairs := forall₂_of_mapM_ok hfound
  clear h hfound
  generalize unitRanges (fileLines content.toList) = ranges at hpairs hfg ⊢
  induction hpairs with
  | nil => exact .slnil
  | @cons ls o ranges found ho _ ih =>
    rw [List.forall_mem_cons] at hfg
    rw [List.flatMap_cons]
    cases o with
    | none => exact (ih hfg.2).trans (List.sublist_append_right _ _)
    | some u => exact (hfg.1 u ho).append (ih hfg.2)

/-- A unit knows the source it was read from. -/
theorem source_of_mem_splitUnits {source content : String} {units : List DocUnit} {u : DocUnit}
    (h : splitUnits source content = .ok units) (hu : u ∈ units) : u.source = source := by
  obtain ⟨ls, -, hls⟩ := mem_splitUnits h hu
  rw [unitOfLines_eq] at hls
  obtain ⟨header, -, -, -, rfl⟩ := unitOfParts_eq_ok_some.1 hls
  rfl

end BusDoc.Doc
