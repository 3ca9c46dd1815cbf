import BusDoc.Proofs.Doc.TabStops
import BusDoc.Proofs.Text.Lines
import Mathlib.Data.List.Chain

/-!
# Lines of a file

* `numberLines_append`, `numberLines_flatten`: numbering goes on from part to part.
* `map_text_numberLines`: the texts of numbered lines do not depend on the numbers.
* `tidy_of_mem_fileLines`, `consecutive_fileLines`: the lines of a file have no blanks at their ends
  and are numbered one after the other.
-/

namespace BusDoc.Doc

open Text

/-! ## Lines without blanks at their ends -/

/-- The text is a single line, and it is not followed by blanks unless it is made of them. -/
structure Line.Tidy (l : Line) : Prop where
  feed : '\n' ∉ l.text
  ended : l.isBlank = false → trimEnd l.text = l.text

theorem tidy_expandTabs (number : Nat) {l : List Char} (h : '\n' ∉ l) :
    (Line.mk number (expandTabs l)).Tidy := by
  refine ⟨fun hmem => ?_, fun _ => dropEndWhile_idem isBlank _⟩
  rcases mem_expandTabs hmem with hspace | hl
  · exact absurd hspace (by decide)
  · exact h hl

/-! ## Numbers -/

theorem numberLines_append (start : Nat) (ls ms : List (List Char)) :
    numberLines start (ls ++ ms) =
      numberLines start ls ++ numberLines (start + ls.length) ms := by
  induction ls generalizing start with
  | nil => rfl
  | cons l ls ih =>
    rw [List.cons_append, numberLines, numberLines, ih, List.length_cons, List.cons_append,
      Nat.add_right_comm start 1]
    rfl

theorem map_text_numberLines (start : Nat) (ls : List (List Char)) :
    (numberLines start ls).map Line.text = ls.map expandTabs := by
  induction ls generalizing start with
  | nil => rfl
  | cons l ls ih => simp [numberLines, ih]

theorem numberLines_map_expandTabs (start : Nat) (ls : List (List Char)) :
    numberLines start (ls.map expandTabs) = numberLines start ls := by
  induction ls generalizing start with
  | nil => rfl
  | cons l ls ih => rw [List.map_cons, numberLines, numberLines, expandTabs_expandTabs, ih]

theorem exists_text_of_mem_numberLines {start : Nat} {ls : List (List Char)} {m : Line}
    (h : m ∈ numberLines start ls) : ∃ l ∈ ls, m.text = expandTabs l := by
  have hm : m.text ∈ (numberLines start ls).map Line.text := List.mem_map_of_mem h
  rw [map_text_numberLines] at hm
  obtain ⟨l, hl, e⟩ := List.mem_map.1 hm
  exact ⟨l, hl, e.symm⟩

theorem map_number_numberLines (start : Nat) (ls : List (List Char)) :
    (numberLines start ls).map Line.number = List.range' start ls.length := by
  induction ls generalizing start with
  | nil => rfl
  | cons l ls ih => simp [numberLines, ih, List.range'_succ]

/-- Each line has the number after that of the line before. -/
def Consecutive (ls : List Line) : Prop := ls.IsChain fun l m => m.number = l.number + 1

theorem Consecutive.part {ls part : List Line} (h : Consecutive ls) (hpart : part <:+: ls) :
    Consecutive part :=
  List.IsChain.infix h hpart

theorem consecutive_fileLines (content : List Char) : Consecutive (fileLines content) := by
  have h : ((fileLines content).map Line.number).IsChain fun a b => b = a + 1 := by
    rw [fileLines, map_number_numberLines]
    exact List.isChain_range' 1 _ 1
  exact (List.isChain_map Line.number).1 h

/-- The numbers of lines that follow one another. -/
theorem Consecutive.map_number {l : Line} {ls : List Line} (h : Consecutive (l :: ls)) :
    (l :: ls).map Line.number = List.range' l.number (l :: ls).length := by
  induction ls generalizing l with
  | nil => rfl
  | cons m ls ih =>
    obtain ⟨hm, hls⟩ := List.isChain_cons_cons.1 h
    rw [List.map_cons, ih hls, hm]
    rfl

theorem Consecutive.pairwise_lt {ls : List Line} (h : Consecutive ls) :
    (ls.map Line.number).Pairwise (· < ·) := by
  cases ls with
  | nil => exact .nil
  | cons l ls =>
    rw [h.map_number]
    exact List.pairwise_lt_range'

theorem tidy_of_mem_fileLines {content : List Char} {l : Line} (h : l ∈ fileLines content) :
    l.Tidy := by
  obtain ⟨number, text⟩ := l
  obtain ⟨raw, hraw, rfl⟩ := exists_text_of_mem_numberLines h
  exact tidy_expandTabs number (not_mem_of_mem_lines hraw)

/-- Lists of lines, numbered one after the other. -/
def numberRanges : (start : Nat) → List (List (List Char)) → List (List Line)
  | _, [] => []
  | start, ls :: rest => numberLines start ls :: numberRanges (start + ls.length) rest

theorem numberLines_flatten (start : Nat) (ranges : List (List (List Char))) :
    numberLines start ranges.flatten = (numberRanges start ranges).flatten := by
  induction ranges generalizing start with
  | nil => rfl
  | cons ls rest ih =>
    rw [List.flatten_cons, numberLines_append, ih, numberRanges, List.flatten_cons]

theorem exists_of_mem_numberRanges {start : Nat} {ranges : List (List (List Char))}
    {r : List Line} (h : r ∈ numberRanges start ranges) :
    ∃ k, ∃ ls ∈ ranges, r = numberLines k ls := by
  induction ranges generalizing start with
  | nil => cases h
  | cons ls rest ih =>
    rcases List.mem_cons.1 h with rfl | h
    · exact ⟨start, ls, List.mem_cons_self, rfl⟩
    · obtain ⟨k, ms, hm, e⟩ := ih h
      exact ⟨k, ms, List.mem_cons_of_mem _ hm, e⟩

end BusDoc.Doc
