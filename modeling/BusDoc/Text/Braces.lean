import BusDoc.Text.Lines

/-!
# Splitting outside braces

Lists and types nest in braces, so a separator counts only at depth zero. A closing brace without
an opening one leaves the depth at zero.

* `length_le_of_mem_splitTop`: no part is longer than the text.
-/

namespace BusDoc.Text

/-- The depth after one character. -/
def braceDepth (depth : Nat) (c : Char) : Nat :=
  if c = '{' then depth + 1 else if c = '}' then depth - 1 else depth

/-- The character put in front of the first piece. -/
def consHead (c : Char) : List (List Char) → List (List Char)
  | [] => [[c]]
  | piece :: rest => (c :: piece) :: rest

/-- The pieces between the separators at depth zero, reading from the given depth. -/
def topPieces (sep : Char) : Nat → List Char → List (List Char)
  | _, [] => [[]]
  | depth, c :: s =>
    if c ≠ '{' ∧ c ≠ '}' ∧ c = sep ∧ depth = 0 then [] :: topPieces sep depth s
    else consHead c (topPieces sep (braceDepth depth c) s)

/-- The trimmed parts between the separators outside braces, empty ones dropped. -/
def splitTop (sep : Char) (s : List Char) : List (List Char) :=
  ((topPieces sep 0 s).map trim).filter fun part => !part.isEmpty

/-- The text before the last blank outside braces, and the text from that blank on. -/
def cutLastBlank : Nat → List Char → Option (List Char × List Char)
  | _, [] => none
  | depth, c :: s =>
    match cutLastBlank (braceDepth depth c) s with
    | some (front, rest) => some (c :: front, rest)
    | none => if isBlank c ∧ depth = 0 then some ([], c :: s) else none

theorem length_dropEndWhile_le (p : Char → Bool) (s : List Char) :
    (dropEndWhile p s).length ≤ s.length := by
  have := (List.dropWhile_sublist p (l := s.reverse)).length_le
  simpa [dropEndWhile] using this

theorem length_trim_le (s : List Char) : (trim s).length ≤ s.length :=
  Nat.le_trans (length_dropEndWhile_le _ _) (List.dropWhile_sublist _).length_le

theorem topPieces_ne_nil (sep : Char) (depth : Nat) (s : List Char) :
    topPieces sep depth s ≠ [] := by
  cases s with
  | nil => simp [topPieces]
  | cons c s =>
    rw [topPieces]
    split
    · simp
    · cases topPieces sep (braceDepth depth c) s <;> simp [consHead]

theorem length_le_of_mem_topPieces {sep : Char} {depth : Nat} {s part : List Char}
    (h : part ∈ topPieces sep depth s) : part.length ≤ s.length := by
  induction s generalizing depth part with
  | nil => simp_all [topPieces]
  | cons c s ih =>
    rw [topPieces] at h
    split at h
    next =>
      rcases List.mem_cons.1 h with rfl | h
      · simp
      · exact Nat.le_succ_of_le (ih h)
    next =>
      cases hp : topPieces sep (braceDepth depth c) s with
      | nil => exact absurd hp (topPieces_ne_nil _ _ _)
      | cons piece rest =>
        rw [hp, consHead] at h
        rcases List.mem_cons.1 h with rfl | h
        · exact Nat.succ_le_succ (ih (hp ▸ List.mem_cons_self))
        · exact Nat.le_succ_of_le (ih (hp ▸ List.mem_cons_of_mem _ h))

theorem length_le_of_mem_splitTop {sep : Char} {s part : List Char} (h : part ∈ splitTop sep s) :
    part.length ≤ s.length := by
  simp only [splitTop, List.mem_filter, List.mem_map] at h
  obtain ⟨⟨p, hp, rfl⟩, -⟩ := h
  exact Nat.le_trans (length_trim_le p) (length_le_of_mem_topPieces hp)

end BusDoc.Text
