import BusDoc.Proofs.Doc.FileLines
import BusDoc.Proofs.Doc.Runs
import Mathlib.Data.List.Flatten
import Mathlib.Data.List.Nodup

/-!
# The lines of a block

The text of a block has a line for every line that the block was made of, up to the last one that
is not blank. So a block that begins at a line of a file spans as many numbers as its text has
lines.

* `eq_of_mem_span`: blocks that stand one behind the other share no line.
* `exists_madeOf`: the lines that a block is made of, and its text from them.
* `exists_runs`: the blocks of a section are made of the runs that follow its blank front.
* `sublist_splitBlocks`, `exists_span_of_mem`: the blocks of a section span lines of it in their
  order, and all that are not blank.
-/

namespace BusDoc.Doc

open Text

/-- The lines of the text of a block. -/
def Block.textLines (b : Block) : List (List Char) := splitOn '\n' b.text

/-- The numbers of the lines of the file that the text of a block stands in. -/
def Block.span (b : Block) : List Nat := List.range' b.line b.textLines.length

theorem Block.span_eq_cons (b : Block) : ∃ rest, b.span = b.line :: rest := by
  have h := List.length_pos_of_ne_nil (splitOn_ne_nil '\n' b.text)
  obtain ⟨n, hn⟩ := Nat.exists_eq_add_of_lt h
  exact ⟨_, by rw [span, textLines, hn, Nat.zero_add, List.range'_succ]⟩

theorem map_line_sublist_span (bs : List Block) :
    (bs.map Block.line).Sublist (bs.flatMap Block.span) := by
  induction bs with
  | nil => exact .slnil
  | cons b bs ih =>
    obtain ⟨rest, hspan⟩ := b.span_eq_cons
    rw [List.map_cons, List.flatMap_cons, hspan]
    exact (ih.trans (List.sublist_append_right rest _)).cons_cons b.line

/-- Blocks that stand one behind the other share no line. -/
theorem eq_of_mem_span {bs : List Block} (h : (bs.flatMap Block.span).Pairwise (· < ·))
    {b b' : Block} (hb : b ∈ bs) (hb' : b' ∈ bs) {number : Nat} (hn : number ∈ b.span)
    (hn' : number ∈ b'.span) : b = b' := by
  have hnodup : (bs.flatMap Block.span).Nodup := h.imp Nat.ne_of_lt
  have hsymm : Std.Symm (Function.onFun List.Disjoint Block.span) :=
    ⟨fun _ _ hd _ h₁ h₂ => hd h₂ h₁⟩
  by_contra hne
  exact (List.nodup_flatMap.1 hnodup).2.forall hb hb' hne hn hn'

/-! ## A line without the indentation of its section -/

section

variable {n : Nat} {l : Line}

theorem blockLine_of_blank (h : l.isBlank = true) : blockLine n l = [] := if_pos h

theorem blockLine_of_not_blank (h : l.isBlank = false) :
    blockLine n l = l.text.drop (min n l.indent) := by
  rw [blockLine, h]
  rfl

theorem notMem_blockLine (h : l.Tidy) : '\n' ∉ blockLine n l := by
  unfold blockLine
  split
  · exact List.not_mem_nil
  · exact fun hmem => h.feed ((List.drop_sublist _ _).subset hmem)

/-- Only blanks are cut from a line. -/
theorem allBlank_blockLine (n : Nat) (l : Line) : allBlank (blockLine n l) = l.isBlank := by
  cases h : l.isBlank with
  | true =>
    rw [blockLine_of_blank h]
    rfl
  | false =>
    have hcut : (l.text.take (min n l.indent)).all isBlank = true :=
      allBlank_of_all_isIndent (all_take_of_le_indentOf (Nat.min_le_right n _))
    have hdrop : l.text.all isBlank = false := h
    rw [← List.take_append_drop (min n l.indent) l.text, List.all_append, hcut,
      Bool.true_and] at hdrop
    rw [blockLine_of_not_blank h]
    exact hdrop

theorem trimEnd_blockLine (h : l.Tidy) : trimEnd (blockLine n l) = blockLine n l := by
  cases hl : l.isBlank with
  | true =>
    rw [blockLine_of_blank hl]
    rfl
  | false =>
    have hend := h.ended hl
    rw [← List.take_append_drop (min n l.indent) l.text] at hend
    rw [blockLine_of_not_blank hl]
    exact trimEnd_of_append hend

end

/-! ## Blocks -/

theorem text_blockOfLines {kind : BlockKind} {n : Nat} {kept blanks : List Line} {last : Line}
    (htidy : last.Tidy) (hlast : last.isBlank = false) (hblanks : ∀ l ∈ blanks, l.isBlank = true) :
    (blockOfLines kind n (kept ++ [last] ++ blanks)).text =
      unlines ((kept ++ [last]).map (blockLine n)) := by
  have hempty : blanks.map (blockLine n) = List.replicate blanks.length [] :=
    List.map_eq_replicate_iff.2 fun l hl => blockLine_of_blank (hblanks l hl)
  have hne : blockLine n last ≠ [] := fun he => by
    have h := allBlank_blockLine n last
    rw [he, hlast] at h
    cases h
  show trimEnd (unlines ((kept ++ [last] ++ blanks).map (blockLine n))) = _
  rw [List.map_append, hempty, List.map_append, List.map_singleton,
    trimEnd_unlines (trimEnd_blockLine htidy) hne]

/-- The block has a line for each of the given ones, under its number and without up to `n` blanks
at its front. The first and the last of them are not blank. -/
structure Block.MadeOf (b : Block) (n : Nat) (kept : List Line) : Prop where
  span : b.span = kept.map Line.number
  textLines : b.textLines = kept.map (blockLine n)
  head : ∃ l, kept.head? = some l ∧ l.isBlank = false
  last : ∃ l, kept.getLast? = some l ∧ l.isBlank = false

namespace Block.MadeOf

variable {b : Block} {n : Nat} {kept : List Line}

/-- The number of a block and the place of a line in its text give the line of the file. -/
theorem exists_of_textLines (h : b.MadeOf n kept) {k : Nat} {s : List Char}
    (hs : b.textLines[k]? = some s) : ∃ l ∈ kept, l.number = b.line + k ∧ s = blockLine n l := by
  have hspan : b.span[k]? = some (b.line + k) := by
    obtain ⟨hlt, -⟩ := List.getElem?_eq_some_iff.1 hs
    rw [Block.span, List.getElem?_range' hlt, Nat.one_mul]
  rw [h.textLines, List.getElem?_map, Option.map_eq_some_iff] at hs
  rw [h.span, List.getElem?_map, Option.map_eq_some_iff] at hspan
  obtain ⟨l, hl, rfl⟩ := hs
  obtain ⟨m, hm, hnumber⟩ := hspan
  rw [hl] at hm
  cases hm
  exact ⟨l, List.mem_of_getElem? hl, hnumber, rfl⟩

theorem starts (h : b.MadeOf n kept) : ∀ s ∈ b.textLines.head?, allBlank s = false := by
  obtain ⟨l, hl, hblank⟩ := h.head
  rw [h.textLines, List.head?_map, hl]
  rintro s ⟨⟩
  rw [allBlank_blockLine, hblank]

theorem ends (h : b.MadeOf n kept) : ∀ s ∈ b.textLines.getLast?, allBlank s = false := by
  obtain ⟨l, hl, hblank⟩ := h.last
  rw [h.textLines, List.getLast?_map, hl]
  rintro s ⟨⟩
  rw [allBlank_blockLine, hblank]

end Block.MadeOf

/-- A block is made of its lines up to the last that is not blank. -/
theorem exists_madeOf (kind : BlockKind) (n : Nat) {first : Line} {ls : List Line}
    (hfirst : first.isBlank = false) (htidy : ∀ l ∈ first :: ls, l.Tidy)
    (hnumbers : Consecutive (first :: ls)) :
    ∃ kept blanks, first :: ls = kept ++ blanks ∧ (∀ l ∈ blanks, l.isBlank = true) ∧
      (blockOfLines kind n (first :: ls)).MadeOf n kept := by
  obtain ⟨rest, blanks, rfl, hblanks, last, hend, hlast⟩ :=
    exists_upTo_last (p := Line.isBlank) hfirst ls
  obtain ⟨init, hkept⟩ := List.getLast?_eq_some_iff.1 hend
  have htext : (blockOfLines kind n (first :: rest ++ blanks)).textLines =
      (first :: rest).map (blockLine n) := by
    rw [← List.cons_append] at htidy
    rw [hkept] at htidy ⊢
    rw [Block.textLines, text_blockOfLines (htidy last (by simp)) hlast hblanks,
      splitOn_unlines (by simp)]
    intro s hs
    obtain ⟨l, hl, rfl⟩ := List.mem_map.1 hs
    exact notMem_blockLine (htidy l (List.mem_append_left _ hl))
  have hfront : Consecutive (first :: rest) := List.IsChain.left_of_append hnumbers
  refine ⟨first :: rest, blanks, rfl, hblanks, ?_, htext, ⟨first, rfl, hfirst⟩,
    ⟨last, hend, hlast⟩⟩
  rw [Block.span, ← List.cons_append, htext, List.length_map, hfront.map_number]
  rfl

/-! ## Sections -/

theorem map_fst_markStarts (n : Nat) (afterBlank : Bool) (ls : List Line) :
    (markStarts n afterBlank ls).map Prod.fst = ls := by
  induction ls generalizing afterBlank with
  | nil => rfl
  | cons l ls ih => rw [markStarts, List.map_cons, ih]

/-- No block begins at a blank line. -/
theorem isBlank_of_mem_markStarts {n : Nat} {afterBlank : Bool} {ls : List Line} {l : Line}
    (h : (l, true) ∈ markStarts n afterBlank ls) : l.isBlank = false := by
  induction ls generalizing afterBlank with
  | nil => cases h
  | cons m ls ih =>
    rcases List.mem_cons.1 h with he | h
    · obtain ⟨rfl, hmark⟩ := Prod.mk.inj he
      cases hl : l.isBlank with
      | false => rfl
      | true => simp [hl] at hmark
    · exact ih h

/-- The blocks of a section are made of the runs behind its blank lines at the front. -/
theorem splitBlocks_eq (kind : BlockKind) {ls : List Line} {first : Line}
    (h : ls.find? (fun l => !l.isBlank) = some first) :
    ∃ (blanks : List Line) (runs : List (List Line)), ls = blanks ++ runs.flatten ∧
      (∀ l ∈ blanks, l.isBlank = true) ∧
      (∀ r ∈ runs, ∃ l rest, r = l :: rest ∧ l.isBlank = false) ∧
      splitBlocks kind ls = runs.map (blockOfLines kind first.indent) := by
  obtain ⟨hfirst, blanks, rest, rfl, hblanks⟩ := List.find?_eq_some_iff_append.1 h
  have hblanks : ∀ l ∈ blanks, l.isBlank = true := by simpa using hblanks
  have hfirst : first.isBlank = false := by simpa using hfirst
  have hstart : markStarts first.indent true (first :: rest) =
      (first, true) :: markStarts first.indent false rest := by
    rw [markStarts, hfirst]
    simp
  let runs := (cutBefore Prod.snd (markStarts first.indent true (first :: rest))).2
  have hflatten : (runs.map (List.map Prod.fst)).flatten = first :: rest := by
    rw [← List.map_flatten, flatten_cutBefore, hstart, List.dropWhile_cons_of_neg (by simp),
      ← hstart, map_fst_markStarts]
  refine ⟨blanks, runs.map (List.map Prod.fst), by rw [hflatten], hblanks, ?_, ?_⟩
  · intro r hr
    obtain ⟨run, hrun, rfl⟩ := List.mem_map.1 hr
    have hmarked := isRun_of_mem_cutBefore hrun
    obtain ⟨before, after, hwhole, -⟩ := exists_of_mem_cutBefore hrun
    cases run with
    | nil => exact absurd hmarked id
    | cons x xs =>
      obtain ⟨l, mark⟩ := x
      obtain rfl : mark = true := hmarked.1
      have hmem : (l, true) ∈ markStarts first.indent true (first :: rest) := by
        rw [hwhole]
        simp
      exact ⟨l, xs.map Prod.fst, rfl, isBlank_of_mem_markStarts hmem⟩
  · unfold splitBlocks
    rw [h]
    dsimp only
    rw [markStarts_blank_append hblanks,
      cutBefore_append_of_unmarked fun _ => snd_of_mem_map_false, List.map_map]
    rfl

section

variable {kind : BlockKind} {ls : List Line}

/-- A section is a blank front and runs of lines, of which each makes a block and ends in blank
lines. -/
theorem exists_runs (kind : BlockKind) (htidy : ∀ l ∈ ls, l.Tidy) (hnumbers : Consecutive ls) :
    ∃ (n : Nat) (blanks : List Line) (runs : List (List Line)), ls = blanks ++ runs.flatten ∧
      (∀ l ∈ blanks, l.isBlank = true) ∧ splitBlocks kind ls = runs.map (blockOfLines kind n) ∧
      ∀ r ∈ runs, (∃ first, ls.find? (fun l => !l.isBlank) = some first ∧ first.indent = n) ∧
        ∃ kept behind, r = kept ++ behind ∧ (∀ l ∈ behind, l.isBlank = true) ∧
          (blockOfLines kind n r).MadeOf n kept := by
  cases hfind : ls.find? fun l => !l.isBlank with
  | none =>
    refine ⟨0, ls, [], by simp, by simpa using hfind, ?_, fun _ h => absurd h List.not_mem_nil⟩
    rw [splitBlocks, hfind]
    rfl
  | some first =>
    obtain ⟨blanks, runs, rfl, hblanks, hruns, hsplit⟩ := splitBlocks_eq kind hfind
    refine ⟨first.indent, blanks, runs, rfl, hblanks, hsplit, fun r hr => ⟨⟨first, rfl, rfl⟩, ?_⟩⟩
    obtain ⟨l, rest, rfl, hl⟩ := hruns r hr
    have hpart : l :: rest <:+: blanks ++ runs.flatten :=
      (List.infix_of_mem_flatten hr).trans (List.suffix_append _ _).isInfix
    exact exists_madeOf kind first.indent hl (fun m hm => htidy m (hpart.subset hm))
      (hnumbers.part hpart)

/-- What a block of a section is made of. -/
theorem exists_of_mem_splitBlocks (htidy : ∀ l ∈ ls, l.Tidy) (hnumbers : Consecutive ls) {b : Block}
    (hb : b ∈ splitBlocks kind ls) :
    b.kind = kind ∧ ∃ first kept, ls.find? (fun l => !l.isBlank) = some first ∧
      (∀ l ∈ kept, l ∈ ls) ∧ b.MadeOf first.indent kept := by
  obtain ⟨n, blanks, runs, hls, -, hsplit, hruns⟩ := exists_runs kind htidy hnumbers
  rw [hsplit] at hb
  obtain ⟨r, hr, rfl⟩ := List.mem_map.1 hb
  obtain ⟨⟨first, hfirst, rfl⟩, kept, behind, rfl, -, hmade⟩ := hruns r hr
  refine ⟨rfl, first, kept, hfirst, fun l hl => ?_, hmade⟩
  rw [hls]
  exact List.mem_append_right _ (List.mem_flatten_of_mem hr (List.mem_append_left _ hl))

/-- The blocks of a section stand in it one behind the other. -/
theorem sublist_splitBlocks (kind : BlockKind) (htidy : ∀ l ∈ ls, l.Tidy)
    (hnumbers : Consecutive ls) :
    ((splitBlocks kind ls).flatMap Block.span).Sublist (ls.map Line.number) := by
  obtain ⟨n, blanks, runs, hls, -, hsplit, hruns⟩ := exists_runs kind htidy hnumbers
  have hrun : ∀ r ∈ runs, (blockOfLines kind n r).span.Sublist (r.map Line.number) := by
    intro r hr
    obtain ⟨-, kept, behind, rfl, -, hmade⟩ := hruns r hr
    rw [hmade.span, List.map_append]
    exact List.sublist_append_left _ _
  rw [hsplit, List.flatMap_map, hls, List.map_append, List.map_flatten, ← List.flatMap_def]
  exact (List.Sublist.flatMap_right runs hrun).trans (List.sublist_append_right _ _)

/-- Every line of a section that is not blank stands in a block. -/
theorem exists_span_of_mem (kind : BlockKind) (htidy : ∀ l ∈ ls, l.Tidy)
    (hnumbers : Consecutive ls) {l : Line} (hl : l ∈ ls) (hblank : l.isBlank = false) :
    ∃ b ∈ splitBlocks kind ls, l.number ∈ b.span := by
  obtain ⟨n, blanks, runs, hls, hblanks, hsplit, hruns⟩ := exists_runs kind htidy hnumbers
  have hkeep {ms : List Line} (hms : ∀ m ∈ ms, m.isBlank = true) : l ∉ ms := fun hmem => by
    rw [hms l hmem] at hblank
    cases hblank
  rw [hls] at hl
  obtain ⟨r, hr, hlr⟩ := List.mem_flatten.1 ((List.mem_append.1 hl).resolve_left (hkeep hblanks))
  obtain ⟨-, kept, behind, rfl, hbehind, hmade⟩ := hruns r hr
  refine ⟨_, hsplit ▸ List.mem_map_of_mem hr, ?_⟩
  rw [hmade.span]
  exact List.mem_map_of_mem ((List.mem_append.1 hlr).resolve_right (hkeep hbehind))

end

end BusDoc.Doc
