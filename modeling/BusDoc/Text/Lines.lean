import BusDoc.Text.Blank

/-!
# Pieces and lines

`splitOn` cuts a text at every occurrence of a character and never returns the empty list.
`lines` cuts it at line feeds: a carriage return before a line feed belongs to the line end, and a
line feed at the very end opens no further line. `words` gives the maximal runs of characters that
are not separators.

* `join_splitOn`: joining the pieces with the separator gives the text back.
-/

namespace BusDoc.Text

/-- The pieces of the text between the occurrences of `sep`. -/
def splitOn (sep : Char) : List Char → List (List Char)
  | [] => [[]]
  | c :: s =>
    if c = sep then [] :: splitOn sep s
    else match splitOn sep s with
      | [] => [[c]]
      | piece :: rest => (c :: piece) :: rest

/-- A line without the carriage return it may end with. -/
def dropReturn (s : List Char) : List Char := if s.getLast? = some '\r' then s.dropLast else s

/-- The lines that the pieces between line feeds stand for: all pieces but the last were ended by
a line feed. -/
def linesOfPieces : List (List Char) → List (List Char)
  | [] => []
  | [last] => if last.isEmpty then [] else [last]
  | piece :: rest => dropReturn piece :: linesOfPieces rest

/-- The lines of a text. -/
def lines (s : List Char) : List (List Char) := linesOfPieces (splitOn '\n' s)

/-- The text up to the first line feed, and what follows the line feed if there is one. -/
def cutLine : List Char → List Char × Option (List Char)
  | [] => ([], none)
  | c :: s =>
    if c = '\n' then ([], some s)
    else let (line, rest) := cutLine s
      (c :: line, rest)

/-- The maximal runs of characters that are not separators. -/
def words (isSep : Char → Bool) : List Char → List (List Char)
  | [] => []
  | c :: s =>
    if isSep c then words isSep s
    else match s with
      | [] => [[c]]
      | d :: _ =>
        if isSep d then [c] :: words isSep s
        else match words isSep s with
          | [] => [[c]]
          | w :: ws => (c :: w) :: ws

/-- The texts joined by `sep`. -/
def join (sep : List Char) : List (List Char) → List Char
  | [] => []
  | [s] => s
  | s :: rest => s ++ sep ++ join sep rest

/-- The lines joined by line feeds. -/
def unlines (ls : List (List Char)) : List Char := join ['\n'] ls

theorem splitOn_ne_nil (sep : Char) (s : List Char) : splitOn sep s ≠ [] := by
  cases s with
  | nil => simp [splitOn]
  | cons c s =>
    rw [splitOn]
    split
    · simp
    · split <;> simp

theorem join_cons_of_ne_nil (sep s : List Char) {rest : List (List Char)} (h : rest ≠ []) :
    join sep (s :: rest) = s ++ sep ++ join sep rest := by
  cases rest with
  | nil => exact absurd rfl h
  | cons _ _ => rfl

theorem join_splitOn (sep : Char) (s : List Char) : join [sep] (splitOn sep s) = s := by
  induction s with
  | nil => rfl
  | cons c s ih =>
    have hne := splitOn_ne_nil sep s
    rw [splitOn]
    split
    next h => rw [join_cons_of_ne_nil _ _ hne, ih, h]; rfl
    next h =>
      split
      next hs => exact absurd hs hne
      next piece rest hs =>
        rw [hs] at ih
        cases rest with
        | nil => simpa [join] using ih
        | cons r rs => simp only [join] at ih ⊢; simp [← ih]

end BusDoc.Text
