import BusDoc.Proofs.Text.Trim
import BusDoc.Text.Lines
import Mathlib.Data.List.Induction

/-!
# Texts written line by line

`terminate` writes lines each with a line feed behind it, `unlines` writes them with line feeds
between them.

* `splitOn_append_sep`: the pieces of a text are those before and those after a separator.
* `not_mem_of_mem_lines`: no line holds a line feed.
* `lines_terminate_eq_map`, `lines_terminate`: lines without line feeds are read back, each without
  the carriage return that it may end with.
* `cutLine_of_notMem`, `cutLine_append_cons`, `cutLine_cases`: the first line of a text.
* `unlines_concat`: the last line stands behind the terminated ones before it.
* `splitOn_join`, `splitOn_unlines`: texts without the separator are the pieces of the text they are
  joined to.
* `lines_unlines`: so are lines without blanks at their ends.
* `trim_unlines_empties`: empty lines around a text are cut by a trim.
* `trimEnd_unlines`: empty lines at the end of a text are cut by a right trim, and no more than
  that if the line before them is trimmed.
* `exists_upTo_last`: a list from its first to its last element that is not passed over.
-/

namespace BusDoc.Text

/-- The lines, each ended by a line feed. -/
def terminate (ls : List (List Char)) : List Char := ls.flatMap (· ++ ['\n'])

theorem terminate_append (ls ms : List (List Char)) :
    terminate (ls ++ ms) = terminate ls ++ terminate ms := List.flatMap_append

/-! ## Pieces -/

theorem splitOn_append_sep (sep : Char) (s t : List Char) :
    splitOn sep (s ++ sep :: t) = splitOn sep s ++ splitOn sep t := by
  induction s with
  | nil => simp [splitOn]
  | cons c s ih =>
    rw [List.cons_append, splitOn, splitOn, ih]
    split
    next => rfl
    next =>
      cases h : splitOn sep s with
      | nil => exact absurd h (splitOn_ne_nil sep s)
      | cons piece rest => rfl

theorem not_mem_of_mem_splitOn {sep : Char} {s piece : List Char} (h : piece ∈ splitOn sep s) :
    sep ∉ piece := by
  induction s generalizing piece with
  | nil =>
    rw [splitOn, List.mem_singleton] at h
    simp [h]
  | cons c s ih =>
    rw [splitOn] at h
    split at h
    next =>
      rcases List.mem_cons.1 h with rfl | h
      · exact List.not_mem_nil
      · exact ih h
    next hc =>
      cases hs : splitOn sep s with
      | nil => exact absurd hs (splitOn_ne_nil sep s)
      | cons first rest =>
        rw [hs] at h
        rcases List.mem_cons.1 h with rfl | h
        · rw [List.mem_cons, not_or]
          exact ⟨Ne.symm hc, ih (hs ▸ List.mem_cons_self)⟩
        · exact ih (hs ▸ List.mem_cons_of_mem _ h)

/-! ## Reading lines back -/

theorem splitOn_of_notMem {sep : Char} {s : List Char} (h : sep ∉ s) : splitOn sep s = [s] := by
  induction s with
  | nil => rfl
  | cons c s ih =>
    have hc : c ≠ sep := fun e => h (e ▸ List.mem_cons_self)
    have hs : sep ∉ s := fun m => h (List.mem_cons_of_mem _ m)
    rw [splitOn, if_neg hc, ih hs]

theorem splitOn_append_cons {sep : Char} {s : List Char} (h : sep ∉ s) (t : List Char) :
    splitOn sep (s ++ sep :: t) = s :: splitOn sep t := by
  induction s with
  | nil => simp [splitOn]
  | cons c s ih =>
    have hc : c ≠ sep := fun e => h (e ▸ List.mem_cons_self)
    have hs : sep ∉ s := fun m => h (List.mem_cons_of_mem _ m)
    rw [List.cons_append, splitOn, if_neg hc, ih hs]

theorem splitOn_terminate {ls : List (List Char)} (h : ∀ l ∈ ls, '\n' ∉ l) :
    splitOn '\n' (terminate ls) = ls ++ [[]] := by
  induction ls with
  | nil => rfl
  | cons l ls ih =>
    have hl : '\n' ∉ l := h l List.mem_cons_self
    have e : terminate (l :: ls) = l ++ '\n' :: terminate ls := by simp [terminate]
    rw [e, splitOn_append_cons hl, ih fun m hm => h m (List.mem_cons_of_mem _ hm)]
    rfl

theorem linesOfPieces_cons {piece : List Char} {rest : List (List Char)} (h : rest ≠ []) :
    linesOfPieces (piece :: rest) = dropReturn piece :: linesOfPieces rest := by
  cases rest with
  | nil => exact absurd rfl h
  | cons _ _ => rfl

theorem exists_of_mem_linesOfPieces {pieces : List (List Char)} {l : List Char}
    (h : l ∈ linesOfPieces pieces) : ∃ piece ∈ pieces, ∀ c ∈ l, c ∈ piece := by
  induction pieces with
  | nil => cases h
  | cons piece rest ih =>
    cases rest with
    | nil =>
      rw [linesOfPieces] at h
      split at h
      next => cases h
      next => exact ⟨piece, List.mem_cons_self, fun c hc => List.mem_singleton.1 h ▸ hc⟩
    | cons next rest =>
      rw [linesOfPieces_cons (by simp)] at h
      rcases List.mem_cons.1 h with rfl | h
      · refine ⟨piece, List.mem_cons_self, fun c hc => ?_⟩
        unfold dropReturn at hc
        split at hc
        next => exact (List.dropLast_sublist _).subset hc
        next => exact hc
      · obtain ⟨p, hp, hl⟩ := ih h
        exact ⟨p, List.mem_cons_of_mem _ hp, hl⟩

theorem not_mem_of_mem_lines {s l : List Char} (h : l ∈ lines s) : '\n' ∉ l := by
  obtain ⟨piece, hp, hl⟩ := exists_of_mem_linesOfPieces h
  exact fun hc => not_mem_of_mem_splitOn hp (hl _ hc)

theorem linesOfPieces_concat_nil (ls : List (List Char)) :
    linesOfPieces (ls ++ [[]]) = ls.map dropReturn := by
  induction ls with
  | nil => rfl
  | cons l ls ih =>
    rw [List.cons_append, linesOfPieces_cons (by simp), ih]
    rfl

theorem dropReturn_of_trimEnd {l : List Char} (h : trimEnd l = l) : dropReturn l = l := by
  unfold dropReturn
  rw [if_neg]
  intro hr
  exact absurd (isBlank_getLast h hr) (by decide)

theorem lines_terminate_eq_map {ls : List (List Char)} (hfeed : ∀ l ∈ ls, '\n' ∉ l) :
    lines (terminate ls) = ls.map dropReturn := by
  rw [lines, splitOn_terminate hfeed, linesOfPieces_concat_nil]

theorem lines_terminate {ls : List (List Char)} (hfeed : ∀ l ∈ ls, '\n' ∉ l)
    (hend : ∀ l ∈ ls, trimEnd l = l) : lines (terminate ls) = ls := by
  have h : ls.map dropReturn = ls.map id :=
    List.map_congr_left fun l hl => dropReturn_of_trimEnd (hend l hl)
  rw [lines_terminate_eq_map hfeed, h, List.map_id]

theorem linesOfPieces_eq_self {ls : List (List Char)} (hend : ∀ l ∈ ls, trimEnd l = l)
    (hlast : ls.getLast? ≠ some []) : linesOfPieces ls = ls := by
  induction ls with
  | nil => rfl
  | cons l ls ih =>
    rw [List.forall_mem_cons] at hend
    cases ls with
    | nil =>
      have hl : l.isEmpty = false := by simpa using hlast
      rw [linesOfPieces, hl]
      rfl
    | cons m ls =>
      rw [List.getLast?_cons_cons] at hlast
      rw [linesOfPieces_cons (by simp), dropReturn_of_trimEnd hend.1, ih hend.2 hlast]

theorem cutLine_of_notMem {s : List Char} (h : '\n' ∉ s) : cutLine s = (s, none) := by
  induction s with
  | nil => rfl
  | cons c s ih =>
    rw [List.mem_cons, not_or] at h
    rw [cutLine, if_neg (Ne.symm h.1), ih h.2]

theorem cutLine_append_cons {s : List Char} (h : '\n' ∉ s) (t : List Char) :
    cutLine (s ++ '\n' :: t) = (s, some t) := by
  induction s with
  | nil => rfl
  | cons c s ih =>
    rw [List.mem_cons, not_or] at h
    rw [List.cons_append, cutLine, if_neg (Ne.symm h.1), ih h.2]

/-- A text is its first line, or that and what stands behind a line feed. -/
theorem cutLine_cases (s : List Char) :
    '\n' ∉ s ∧ cutLine s = (s, none) ∨
      ∃ line rest, s = line ++ '\n' :: rest ∧ '\n' ∉ line ∧ cutLine s = (line, some rest) := by
  by_cases h : '\n' ∈ s
  · obtain ⟨line, rest, rfl, hline⟩ := List.eq_append_cons_of_mem h
    exact .inr ⟨line, rest, rfl, hline, cutLine_append_cons hline rest⟩
  · exact .inl ⟨h, cutLine_of_notMem h⟩

/-! ## Lines joined by line feeds -/

theorem unlines_concat (ls : List (List Char)) (l : List Char) :
    unlines (ls ++ [l]) = terminate ls ++ l := by
  induction ls with
  | nil => rfl
  | cons k ls ih =>
    rw [unlines] at ih ⊢
    rw [List.cons_append, join_cons_of_ne_nil _ _ (by simp), ih]
    simp [terminate]

theorem splitOn_join {sep : Char} {ls : List (List Char)} (hne : ls ≠ [])
    (hsep : ∀ l ∈ ls, sep ∉ l) : splitOn sep (join [sep] ls) = ls := by
  induction ls with
  | nil => exact absurd rfl hne
  | cons l ls ih =>
    rw [List.forall_mem_cons] at hsep
    cases ls with
    | nil => exact splitOn_of_notMem hsep.1
    | cons m ls =>
      rw [join_cons_of_ne_nil _ _ (by simp), List.append_assoc, List.singleton_append,
        splitOn_append_cons hsep.1, ih (by simp) hsep.2]

theorem splitOn_unlines {ls : List (List Char)} (hne : ls ≠ []) (hfeed : ∀ l ∈ ls, '\n' ∉ l) :
    splitOn '\n' (unlines ls) = ls := splitOn_join hne hfeed

theorem lines_unlines {ls : List (List Char)} (hfeed : ∀ l ∈ ls, '\n' ∉ l)
    (hend : ∀ l ∈ ls, trimEnd l = l) (hlast : ls.getLast? ≠ some []) : lines (unlines ls) = ls := by
  cases ls with
  | nil => rfl
  | cons l ls => rw [lines, splitOn_unlines (by simp) hfeed, linesOfPieces_eq_self hend hlast]

theorem unlines_append_empties {ls : List (List Char)} (h : ls ≠ []) (n : Nat) :
    unlines (ls ++ List.replicate n []) = unlines ls ++ List.replicate n '\n' := by
  induction n with
  | zero => simp
  | succ n ih =>
    have hls := List.dropLast_concat_getLast h
    have e : ls ++ List.replicate n [] ≠ [] := by simp [h]
    rw [List.replicate_succ', ← List.append_assoc, unlines_concat, List.append_nil]
    have hl := List.dropLast_concat_getLast e
    rw [← hl, unlines_concat] at ih
    rw [← hl, terminate_append, List.replicate_succ', ← List.append_assoc, ← ih]
    simp [terminate]

theorem unlines_empties_append {ls : List (List Char)} (h : ls ≠ []) (n : Nat) :
    unlines (List.replicate n [] ++ ls) = List.replicate n '\n' ++ unlines ls := by
  induction n with
  | zero => rfl
  | succ n ih =>
    rw [List.replicate_succ, List.cons_append, unlines, join_cons_of_ne_nil _ _ (by simp [h]),
      ← unlines, ih]
    rfl

theorem unlines_empties (n : Nat) :
    unlines (List.replicate (n + 1) []) = List.replicate n '\n' := by
  have h := unlines_append_empties (List.cons_ne_nil [] []) n
  rwa [List.singleton_append, ← List.replicate_succ] at h

theorem allBlank_feeds (n : Nat) : allBlank (List.replicate n '\n') = true := by
  rw [allBlank, List.all_eq_true]
  intro c hc
  rw [List.eq_of_mem_replicate hc]
  rfl

/-- Empty lines around a text are cut by a trim. -/
theorem trim_unlines_empties {ls : List (List Char)} (h : ls ≠ []) (m n : Nat) :
    trim (unlines (List.replicate m [] ++ ls ++ List.replicate n [])) = trim (unlines ls) := by
  rw [unlines_append_empties (by simp [h]), unlines_empties_append h,
    trim_padded (allBlank_feeds m) (allBlank_feeds n)]

theorem trimEnd_unlines {ls : List (List Char)} {l : List Char} (hl : trimEnd l = l) (hne : l ≠ [])
    (n : Nat) :
    trimEnd (unlines (ls ++ [l] ++ List.replicate n [])) = unlines (ls ++ [l]) := by
  rw [unlines_append_empties (by simp), trimEnd_append_of_allBlank (allBlank_feeds n),
    unlines_concat, trimEnd_append hl hne]

/-- A list whose first element is no `p` goes up to the last that is none, and on with others. -/
theorem exists_upTo_last {α : Type} {p : α → Bool} {first : α} (hfirst : p first = false)
    (xs : List α) :
    ∃ rest behind, xs = rest ++ behind ∧ (∀ x ∈ behind, p x = true) ∧
      ∃ last, (first :: rest).getLast? = some last ∧ p last = false := by
  induction xs using List.reverseRecOn with
  | nil => exact ⟨[], [], rfl, fun _ h => absurd h List.not_mem_nil, first, rfl, hfirst⟩
  | append_singleton xs x ih =>
    cases hx : p x with
    | false =>
      refine ⟨xs ++ [x], [], by simp, fun _ h => absurd h List.not_mem_nil, x, ?_, hx⟩
      rw [← List.cons_append, List.getLast?_concat]
    | true =>
      obtain ⟨rest, behind, rfl, hbehind, hlast⟩ := ih
      refine ⟨rest, behind ++ [x], by simp, fun y hy => ?_, hlast⟩
      rcases List.mem_append.1 hy with hy | hy
      · exact hbehind y hy
      · rw [List.mem_singleton.1 hy, hx]

end BusDoc.Text
