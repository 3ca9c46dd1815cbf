import BusDoc.Doc.Unit
import BusDoc.Proofs.Doc.FileLines

/-!
# Whitespace that is not seen

A file is read as the expanded forms of its lines: with spaces up to the next tab stop for each tab,
and without the blanks at the end.

* `lines_normalized`: the expanded lines, written with either line end, are the lines of the text.
* `splitUnits_congr`: texts with the same expanded lines have the same units, or the same fault.
* `splitUnits_normalized`: so a text may be written with expanded lines and either line end.
-/

namespace BusDoc.Doc

open Text

/-- What ends the lines of a file. -/
inductive LineEnd
  | feed | returnFeed
  deriving DecidableEq, Repr

/-- What stands before the line feed. -/
def LineEnd.beforeFeed : LineEnd → List Char
  | feed => []
  | returnFeed => ['\r']

/-- The text with the expanded form in place of each line, and the given line end behind each. -/
def normalized (ending : LineEnd) (content : String) : String :=
  String.ofList (terminate
    ((lines content.toList).map fun l => expandTabs l ++ ending.beforeFeed))

theorem dropReturn_expandTabs_append (l : List Char) (ending : LineEnd) :
    dropReturn (expandTabs l ++ ending.beforeFeed) = expandTabs l := by
  cases ending with
  | feed =>
    rw [LineEnd.beforeFeed, List.append_nil]
    exact dropReturn_of_trimEnd (dropEndWhile_idem isBlank _)
  | returnFeed => simp [LineEnd.beforeFeed, dropReturn]

/-- The lines of the normalized text are the expanded lines. -/
theorem lines_normalized (ending : LineEnd) (content : String) :
    lines (normalized ending content).toList = (lines content.toList).map expandTabs := by
  have hfeed : ∀ l ∈ (lines content.toList).map fun l => expandTabs l ++ ending.beforeFeed,
      '\n' ∉ l := by
    intro l hl
    obtain ⟨raw, hraw, rfl⟩ := List.mem_map.1 hl
    rw [List.mem_append, not_or]
    constructor
    · intro hmem
      rcases mem_expandTabs hmem with hspace | hmem
      · exact absurd hspace (by decide)
      · exact not_mem_of_mem_lines hraw hmem
    · cases ending <;> decide
  rw [normalized, String.toList_ofList, lines_terminate_eq_map hfeed, List.map_map]
  exact List.map_congr_left fun l _ => dropReturn_expandTabs_append l ending

/-- Reading depends on the expanded lines alone. -/
theorem splitUnits_congr {source a b : String}
    (h : (lines a.toList).map expandTabs = (lines b.toList).map expandTabs) :
    splitUnits source a = splitUnits source b := by
  have hlines : fileLines a.toList = fileLines b.toList := by
    rw [fileLines, ← numberLines_map_expandTabs, h, numberLines_map_expandTabs, fileLines]
  rw [splitUnits, splitUnits, hlines]

/-- **Whitespace.** Writing each line of a text in its expanded form, with a line feed behind it or
with a carriage return and a line feed, changes neither its units nor the fault it is refused
for. -/
theorem splitUnits_normalized (source content : String) (ending : LineEnd) :
    splitUnits source (normalized ending content) = splitUnits source content := by
  refine splitUnits_congr ?_
  rw [lines_normalized, List.map_map]
  exact List.map_congr_left fun l _ => expandTabs_expandTabs l

end BusDoc.Doc
