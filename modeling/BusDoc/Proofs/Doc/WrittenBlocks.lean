import BusDoc.Proofs.Doc.FileLines
import BusDoc.Proofs.Doc.Layout
import BusDoc.Proofs.Doc.Runs

/-!
# Written blocks read back

* `blockOfLines_written`: the lines of a block, indented and with empty lines behind them, give
  its text back.
* `splitBlocks_written`: under a blank line, the blocks of a section are cut where they begin.
-/

namespace BusDoc.Doc

open Text

/-! ## Indented lines -/

theorem indentLine_nil (n : Nat) : indentLine n [] = [] := rfl

theorem indentLine_of_ne_nil {n : Nat} {l : List Char} (h : l ≠ []) :
    indentLine n l = List.replicate n ' ' ++ l := if_neg h

theorem allBlank_indentLine (n : Nat) (l : List Char) :
    allBlank (indentLine n l) = allBlank l := by
  by_cases h : l = []
  · rw [h, indentLine_nil]
  · have hs := allBlank_spaces n
    unfold allBlank at hs ⊢
    rw [indentLine_of_ne_nil h, List.all_append, hs, Bool.true_and]

theorem IsPlainLine.empty : IsPlainLine [] := by decide

theorem IsPlainLine.indentLine {l : List Char} (h : IsPlainLine l) (n : Nat) :
    IsPlainLine (indentLine n l) := by
  by_cases hl : l = []
  · rw [hl, indentLine_nil]
    exact .empty
  · obtain ⟨hfeed, htab, htrim⟩ := h
    have hspace : ∀ c ∈ List.replicate n ' ', c = ' ' := fun c hc => List.eq_of_mem_replicate hc
    rw [indentLine_of_ne_nil hl]
    refine ⟨fun hm => ?_, fun hm => ?_, trimEnd_append htrim hl⟩
    · rcases List.mem_append.1 hm with hm | hm
      · exact absurd (hspace _ hm) (by decide)
      · exact hfeed hm
    · rcases List.mem_append.1 hm with hm | hm
      · exact absurd (hspace _ hm) (by decide)
      · exact htab hm

theorem expandTabs_of_plain {l : List Char} (h : IsPlainLine l) : expandTabs l = l := by
  rw [expandTabs_of_noTab h.2.1, h.2.2]

theorem map_text_of_plain (start : Nat) {ls : List (List Char)} (h : ∀ l ∈ ls, IsPlainLine l) :
    (numberLines start ls).map Line.text = ls := by
  rw [map_text_numberLines]
  have e : ls.map expandTabs = ls.map id :=
    List.map_congr_left fun l hl => expandTabs_of_plain (h l hl)
  rw [e, List.map_id]

/-! ## One block -/

namespace BlockText

variable (b : BlockText)

/-- The first line and the character it starts with. -/
theorem exists_first : ∃ c s ls, b.lines = (c :: s) :: ls ∧ isBlank c = false := by
  have h := b.starts
  rcases hl : b.lines with _ | ⟨_ | ⟨c, s⟩, ls⟩
  · simp [hl] at h
  · simp [hl] at h
  · exact ⟨c, s, ls, rfl, by simpa [hl] using h⟩

/-- The last line is not empty. -/
theorem exists_last : ∃ ls l, b.lines = ls ++ [l] ∧ l ≠ [] := by
  obtain ⟨c, s, ls, h, -⟩ := b.exists_first
  have hne : b.lines ≠ [] := by simp [h]
  refine ⟨b.lines.dropLast, b.lines.getLast hne, (List.dropLast_concat_getLast hne).symm, ?_⟩
  intro e
  exact b.ends (by rw [List.getLast?_eq_some_getLast hne, e])

/-- The lines of the block indented by `n`, with `gap` empty lines behind them. -/
def run (n gap : Nat) : List (List Char) := b.lines.map (indentLine n) ++ empties gap

theorem length_run (n gap : Nat) : (b.run n gap).length = b.lines.length + gap := by
  simp [run, empties]

theorem plain_run (n gap : Nat) : ∀ l ∈ b.run n gap, IsPlainLine l := by
  intro l hl
  rcases List.mem_append.1 hl with hl | hl
  · obtain ⟨k, hk, rfl⟩ := List.mem_map.1 hl
    exact (b.plain k hk).indentLine n
  · rw [List.eq_of_mem_replicate hl]
    exact .empty

/-- Below an empty line a written block goes on deeper than `n`. -/
theorem nested_run (n gap : Nat) :
    (b.run n gap).IsChain fun l next =>
      allBlank l = true → allBlank next = true ∨ n < indentOf next := by
  rw [run, List.isChain_append]
  refine ⟨?_, ?_, ?_⟩
  · rw [List.isChain_map]
    refine b.nested.imp_of_mem_imp fun l next hl _ h hblank => ?_
    rw [allBlank_indentLine] at hblank
    rcases h (eq_nil_of_allBlank (b.plain l hl).2.2 hblank) with rfl | h
    · exact .inl rfl
    · obtain ⟨s, rfl⟩ := List.head?_eq_some_iff.1 h
      refine .inr ?_
      rw [indentLine_of_ne_nil (by simp), indentOf_spaces_append, indentOf]
      simp [isIndent]
  · exact List.isChain_replicate_of_rel gap fun _ => .inl rfl
  · intro l _ next hnext _
    rw [List.eq_of_mem_replicate (List.mem_of_mem_head? hnext)]
    exact .inl rfl

theorem isBlockRange_run (start n gap : Nat) :
    IsBlockRange n (numberLines start (b.run n gap)) := by
  have hchain := b.nested_run n gap
  rw [← map_text_of_plain start (b.plain_run n gap), List.isChain_map] at hchain
  obtain ⟨c, s, ls, h, hc⟩ := b.exists_first
  have hfirst : expandTabs (indentLine n (c :: s)) = List.replicate n ' ' ++ c :: s := by
    have hplain := b.plain (c :: s) (h ▸ List.mem_cons_self)
    rw [expandTabs_of_plain (hplain.indentLine n), indentLine_of_ne_nil (by simp)]
  rw [run, h, List.map_cons, List.cons_append, numberLines] at hchain ⊢
  refine ⟨?_, ?_, hchain⟩
  · show allBlank (expandTabs _) = false
    rw [hfirst, ← indentLine_of_ne_nil (by simp), allBlank_indentLine]
    simp [allBlank, hc]
  · show indentOf (expandTabs _) = n
    rw [hfirst, indentOf_spaces_append]
    simp [indentOf, isIndent_of_not_isBlank hc]

/-- A line behind `n` spaces without the indentation of its block. -/
theorem drop_indentLine {n : Nat} {l : List Char} (h : IsPlainLine l) :
    (if allBlank (indentLine n l) then []
      else (indentLine n l).drop (min n (indentOf (indentLine n l)))) = l := by
  rw [allBlank_indentLine]
  split
  next hblank => exact (eq_nil_of_allBlank h.2.2 hblank).symm
  next hblank =>
    have hne : l ≠ [] := by rintro rfl; exact hblank rfl
    rw [indentLine_of_ne_nil hne, indentOf_spaces_append, Nat.min_eq_left (Nat.le_add_right ..)]
    simp

theorem map_blockLine_run (start n gap : Nat) :
    (numberLines start (b.run n gap)).map (blockLine n) = b.lines ++ empties gap := by
  have e : blockLine n =
      (fun t => if allBlank t then [] else t.drop (min n (indentOf t))) ∘ Line.text := rfl
  rw [e, ← List.map_map, map_text_of_plain start (b.plain_run n gap), run, List.map_append,
    List.map_map]
  congr 1
  · have h := List.map_congr_left (g := id) fun l hl => drop_indentLine (n := n) (b.plain l hl)
    rwa [List.map_id] at h
  · simp [empties, allBlank]

theorem blockOfLines_written (kind : BlockKind) (start n gap : Nat) :
    blockOfLines kind n (numberLines start (b.run n gap)) = ⟨kind, unlines b.lines, start⟩ := by
  obtain ⟨ls, l, h, hne⟩ := b.exists_last
  have htrim : trimEnd l = l := (b.plain l (h ▸ by simp)).2.2
  have hline : ((numberLines start (b.run n gap)).head?.map Line.number).getD 1 = start := by
    obtain ⟨c, s, ms, hfirst, -⟩ := b.exists_first
    simp [run, hfirst, numberLines]
  unfold blockOfLines
  rw [map_blockLine_run, hline, h, empties, trimEnd_unlines htrim hne]

end BlockText

/-! ## The blocks of a section -/

theorem blockRuns_cons (n : Nat) (b : BlockText) (gap : Nat) (rest : List (BlockText × Nat)) :
    blockRuns n ((b, gap) :: rest) = b.run n (gapBefore rest gap) :: blockRuns n rest := rfl

theorem exists_of_mem_blockRuns {n : Nat} {bs : List (BlockText × Nat)} {r : List (List Char)}
    (h : r ∈ blockRuns n bs) : ∃ b gap, r = BlockText.run b n gap := by
  induction bs with
  | nil => cases h
  | cons p rest ih =>
    rw [blockRuns_cons] at h
    rcases List.mem_cons.1 h with rfl | h
    · exact ⟨_, _, rfl⟩
    · exact ih h

/-- Every written block but the last ends in a blank line. -/
theorem isChain_blockRuns (n start : Nat) (bs : List (BlockText × Nat)) :
    (numberRanges start (blockRuns n bs)).IsChain fun r _ =>
      ∀ l ∈ r.getLast?, l.isBlank = true := by
  induction bs generalizing start with
  | nil => exact .nil
  | cons p rest ih =>
    cases rest with
    | nil => exact .singleton _
    | cons q rest =>
      rw [blockRuns_cons, numberRanges]
      refine .cons_cons ?_ (ih _)
      intro l hl
      have e : p.1.run n (gapBefore (q :: rest) p.2) = p.1.run n p.2 ++ [[]] := by
        simp [BlockText.run, gapBefore, empties, List.replicate_succ']
      rw [e, numberLines_append] at hl
      simp only [numberLines, List.getLast?_append, List.getLast?_singleton, Option.some_or,
        Option.mem_some_iff] at hl
      rw [← hl]
      rfl

theorem map_blockOfLines_blockRuns (kind : BlockKind) (n start : Nat)
    (bs : List (BlockText × Nat)) :
    (numberRanges start (blockRuns n bs)).map (blockOfLines kind n) = blocksAt kind start bs := by
  induction bs generalizing start with
  | nil => rfl
  | cons p rest ih =>
    rw [blockRuns_cons, numberRanges, List.map_cons, ih, BlockText.blockOfLines_written, blocksAt,
      BlockText.length_run, Nat.add_assoc]

theorem splitBlocks_written (kind : BlockKind) (n start : Nat) {front : List Line}
    (hf : ∀ l ∈ front, l.isBlank = true) (bs : List (BlockText × Nat)) :
    splitBlocks kind (front ++ numberLines start (blockRuns n bs).flatten) =
      blocksAt kind start bs := by
  rw [numberLines_flatten, splitBlocks_flatten hf (n := n) ?_ (isChain_blockRuns n start bs),
    map_blockOfLines_blockRuns]
  intro r hr
  obtain ⟨k, ls, hls, rfl⟩ := exists_of_mem_numberRanges hr
  obtain ⟨b, gap, rfl⟩ := exists_of_mem_blockRuns hls
  exact b.isBlockRange_run k n gap

end BusDoc.Doc
