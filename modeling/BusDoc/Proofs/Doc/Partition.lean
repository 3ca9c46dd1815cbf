import BusDoc.Proofs.Doc.BlockLines
import BusDoc.Proofs.Doc.UnitParts
import Mathlib.Data.List.Flatten

/-!
# Sections are cut into blocks

Behind the first section keyword of a unit every line belongs to a block or is blank. A block is
made of consecutive lines of one section: the numbers of its lines are known from the number of
the first.

* `sectionStart?_eq_some`: a line that starts a section, with the keyword blanked out.
* `sublist_bodyBlocks`, `sublist_blocks`: the blocks of a unit, and those of all units of a file,
  stand one behind the other.
* `partitions_bodyBlocks`: the blocks of a unit are a partition of its sections.
* `splitUnits_partition`: the same of all units of a file, and the order of all its blocks.
-/

namespace BusDoc.Doc

open Text

/-! ## Section lines -/

/-- The text with the word at its front, and a colon behind the word, replaced by spaces. -/
def blankKeyword (text : List Char) : List Char :=
  let word := text.takeWhile isAsciiAlpha
  match text.dropWhile isAsciiAlpha with
  | ':' :: rest => List.replicate (word.length + 1) ' ' ++ rest
  | rest => List.replicate word.length ' ' ++ rest

/-- The line with the keyword blanked out if it starts a section. -/
def Line.blanked (l : Line) : Line :=
  if opensSection l then ⟨l.number, blankKeyword l.text⟩ else l

/-- The lines from the first section keyword on. -/
def sectionLines (body : List Line) : List Line := body.dropWhile fun l => !opensSection l

/-- One section: the line of a keyword and what follows it up to the next keyword. -/
def IsSection (body part : List Line) : Prop :=
  IsRun opensSection part ∧
    ∃ before after, body = before ++ part ++ after ∧ ∀ l ∈ after.head?, opensSection l = true

/-- The line without as much of an indentation. -/
def Line.dedented (l : Line) (indent : Nat) : List Char :=
  if l.blanked.isBlank then [] else l.blanked.text.drop (min indent l.blanked.indent)

/-- The block stands in the section: it has the kind of the keyword, and the lines of its text are
the lines of the section from the number of the block on, without the indentation of the first
line of the section that is not blank. It neither starts nor ends with a blank line. -/
structure Block.IsIn (b : Block) (part : List Line) : Prop where
  kind : ∃ l ∈ part.head?, sectionKind? (l.text.takeWhile isAsciiAlpha) = some b.kind
  lines : ∃ signature, (part.map Line.blanked).find? (fun l => !l.isBlank) = some signature ∧
    ∀ k s, b.textLines[k]? = some s →
      ∃ l ∈ part, l.number = b.line + k ∧ s = l.dedented signature.indent
  nonempty : b.text ≠ []
  starts : ∀ s ∈ b.textLines.head?, allBlank s = false
  ends : ∀ s ∈ b.textLines.getLast?, allBlank s = false

/-- Every line behind the first keyword that is not blank stands in one of the blocks and in no
other, and every block stands in one section. -/
structure Partitions (body : List Line) (blocks : List Block) : Prop where
  covered : ∀ l ∈ sectionLines body, l.blanked.isBlank = false →
    ∃! b, b ∈ blocks ∧ l.number ∈ b.span
  made : ∀ b ∈ blocks, ∃ part, IsSection body part ∧ b.IsIn part

theorem sectionStart?_eq_some {text blanked : List Char} {kind : BlockKind}
    (h : sectionStart? text = some (kind, blanked)) :
    sectionKind? (text.takeWhile isAsciiAlpha) = some kind ∧ blanked = blankKeyword text := by
  unfold sectionStart? at h
  unfold blankKeyword
  cases hk : sectionKind? (text.takeWhile isAsciiAlpha) with
  | none => simp [hk] at h
  | some k =>
    simp only [hk] at h
    split
    next rest hrest =>
      simp only [hrest] at h
      split at h <;> cases h
      next => exact ⟨rfl, (List.append_nil _).symm⟩
      next => exact ⟨rfl, rfl⟩
    next =>
      simp only at h
      split at h <;> cases h
      next hnil => exact ⟨rfl, by rw [hnil, List.append_nil]⟩
      next => exact ⟨rfl, rfl⟩

/-- What is blanked out is a front of the line. -/
theorem exists_blankKeyword (text : List Char) :
    ∃ word rest, text = word ++ rest ∧
      blankKeyword text = List.replicate word.length ' ' ++ rest := by
  have htext := List.takeWhile_append_dropWhile (p := isAsciiAlpha) (l := text)
  unfold blankKeyword
  split
  next rest hrest =>
    refine ⟨text.takeWhile isAsciiAlpha ++ [':'], rest, ?_, by simp⟩
    rw [List.append_assoc, List.singleton_append, ← hrest, htext]
  next => exact ⟨_, _, htext.symm, rfl⟩

@[simp]
theorem number_blanked (l : Line) : l.blanked.number = l.number := by
  unfold Line.blanked
  split <;> rfl

theorem tidy_blanked {l : Line} (h : l.Tidy) : l.blanked.Tidy := by
  unfold Line.blanked
  split
  next =>
    obtain ⟨word, rest, htext, hblanked⟩ := exists_blankKeyword l.text
    have hfeed := h.feed
    rw [htext, List.mem_append, not_or] at hfeed
    refine ⟨?_, fun hblank => ?_⟩
    · show '\n' ∉ blankKeyword l.text
      rw [hblanked, List.mem_append, not_or]
      exact ⟨fun hmem => absurd (List.eq_of_mem_replicate hmem) (by decide), hfeed.2⟩
    · have hrest : rest.all isBlank = false := by
        have hspaces : (List.replicate word.length ' ').all isBlank = true :=
          allBlank_spaces word.length
        have hall : (blankKeyword l.text).all isBlank = false := hblank
        rwa [hblanked, List.all_append, hspaces, Bool.true_and] at hall
      have hl : l.isBlank = false := by
        rw [Line.isBlank, allBlank, htext, List.all_append, hrest, Bool.and_false]
      have hne : rest ≠ [] := fun he => by
        rw [he] at hrest
        cases hrest
      show trimEnd (blankKeyword l.text) = blankKeyword l.text
      rw [hblanked, trimEnd_append (trimEnd_of_append (htext ▸ h.ended hl)) hne]
  next => exact h

theorem consecutive_map_blanked {ls : List Line} (h : Consecutive ls) :
    Consecutive (ls.map Line.blanked) := by
  refine (List.isChain_map Line.blanked).2 ?_
  simp only [number_blanked]
  exact h

/-- The blocks of a section are those of its lines with the keyword blanked out. -/
theorem sectionBlocks_eq {part : List Line} (h : IsRun opensSection part) :
    ∃ kind, (∃ l ∈ part.head?, sectionKind? (l.text.takeWhile isAsciiAlpha) = some kind) ∧
      sectionBlocks part = splitBlocks kind (part.map Line.blanked) := by
  cases part with
  | nil => exact absurd h id
  | cons l ls =>
    obtain ⟨hopen, hls⟩ := h
    obtain ⟨⟨kind, blanked⟩, hstart⟩ := Option.isSome_iff_exists.1 hopen
    obtain ⟨hkind, rfl⟩ := sectionStart?_eq_some hstart
    refine ⟨kind, ⟨l, rfl, hkind⟩, ?_⟩
    have hfirst : l.blanked = ⟨l.number, blankKeyword l.text⟩ := if_pos hopen
    have hrest : ls.map Line.blanked = ls :=
      List.map_congr_left (fun m hm => if_neg (by simp [hls m hm])) |>.trans (List.map_id ls)
    rw [sectionBlocks, hstart, List.map_cons, hfirst, hrest]

/-! ## The sections of a unit -/

/-- The blocks under the keywords among the lines of a unit. -/
def bodyBlocks (body : List Line) : List Block :=
  (cutBefore opensSection body).2.flatMap sectionBlocks

theorem blocks_of_unitOfLines {source : String} {ls : List Line} {u : DocUnit}
    (h : unitOfLines source ls = .ok (some u)) : u.blocks = bodyBlocks (unitBody ls) := by
  rw [unitOfLines_eq] at h
  obtain ⟨header, -, -, -, rfl⟩ := unitOfParts_eq_ok_some.1 h
  rfl

section Body

variable {body : List Line} (htidy : ∀ l ∈ body, l.Tidy) (hnumbers : Consecutive body)

include htidy hnumbers

/-- A section of a unit, and the lines that its blocks are cut from. -/
theorem exists_sectionBlocks_eq {part : List Line} (h : part ∈ (cutBefore opensSection body).2) :
    IsSection body part ∧ (∀ l ∈ part.map Line.blanked, l.Tidy) ∧
      Consecutive (part.map Line.blanked) ∧
      ∃ kind, (∃ l ∈ part.head?, sectionKind? (l.text.takeWhile isAsciiAlpha) = some kind) ∧
        sectionBlocks part = splitBlocks kind (part.map Line.blanked) := by
  have hrun := isRun_of_mem_cutBefore h
  obtain ⟨before, after, hwhole, hafter⟩ := exists_of_mem_cutBefore h
  have hinside : part <:+: body := ⟨before, after, hwhole.symm⟩
  refine ⟨⟨hrun, before, after, hwhole, hafter⟩, fun l hl => ?_,
    consecutive_map_blanked (hnumbers.part hinside), sectionBlocks_eq hrun⟩
  obtain ⟨m, hm, rfl⟩ := List.mem_map.1 hl
  exact tidy_blanked (htidy m (hinside.subset hm))

theorem sublist_bodyBlocks :
    ((bodyBlocks body).flatMap Block.span).Sublist (body.map Line.number) := by
  have hpart : ∀ part ∈ (cutBefore opensSection body).2,
      ((sectionBlocks part).flatMap Block.span).Sublist (part.map Line.number) := by
    intro part h
    obtain ⟨-, htidy, hnumbers, kind, -, heq⟩ := exists_sectionBlocks_eq htidy hnumbers h
    have hsublist := sublist_splitBlocks kind htidy hnumbers
    rw [List.map_map] at hsublist
    rw [heq]
    simpa [Function.comp_def] using hsublist
  have hbody : (cutBefore opensSection body).2.flatten.Sublist body :=
    flatten_cutBefore opensSection body ▸ List.dropWhile_sublist _
  rw [bodyBlocks, List.flatMap_assoc]
  refine (List.Sublist.flatMap_right _ hpart).trans ?_
  rw [List.flatMap_def, ← List.map_flatten]
  exact hbody.map Line.number

theorem partitions_bodyBlocks : Partitions body (bodyBlocks body) := by
  refine ⟨fun l hl hblank => ?_, fun b hb => ?_⟩
  · rw [sectionLines, ← flatten_cutBefore] at hl
    obtain ⟨part, hpart, hl⟩ := List.mem_flatten.1 hl
    obtain ⟨-, htidy', hnumbers', kind, -, heq⟩ := exists_sectionBlocks_eq htidy hnumbers hpart
    obtain ⟨b, hb, hspan⟩ :=
      exists_span_of_mem kind htidy' hnumbers' (List.mem_map_of_mem hl) hblank
    rw [number_blanked] at hspan
    have hmem : b ∈ bodyBlocks body := List.mem_flatMap.2 ⟨part, hpart, heq ▸ hb⟩
    have hordered : ((bodyBlocks body).flatMap Block.span).Pairwise (· < ·) :=
      hnumbers.pairwise_lt.sublist (sublist_bodyBlocks htidy hnumbers)
    exact ⟨b, ⟨hmem, hspan⟩, fun b' hb' => eq_of_mem_span hordered hb'.1 hmem hb'.2 hspan⟩
  · obtain ⟨part, hpart, hb⟩ := List.mem_flatMap.1 hb
    obtain ⟨hsection, htidy', hnumbers', kind, hkind, heq⟩ :=
      exists_sectionBlocks_eq htidy hnumbers hpart
    rw [heq] at hb
    obtain ⟨rfl, signature, kept, hfind, hkept, hmade⟩ :=
      exists_of_mem_splitBlocks htidy' hnumbers' hb
    refine ⟨part, hsection, hkind, ⟨signature, hfind, fun k s hs => ?_⟩, fun hempty => ?_,
      hmade.starts, hmade.ends⟩
    · obtain ⟨m, hm, hnumber, rfl⟩ := hmade.exists_of_textLines hs
      obtain ⟨l, hl, rfl⟩ := List.mem_map.1 (hkept m hm)
      exact ⟨l, hl, number_blanked l ▸ hnumber, rfl⟩
    · have hblank := hmade.starts [] (by rw [Block.textLines, hempty]; rfl)
      cases hblank

end Body

/-! ## The units of a file -/

theorem unitBody_suffix (ls : List Line) : unitBody ls <:+ ls := by
  unfold unitBody
  split
  next => exact List.drop_suffix 2 ls
  next => exact List.suffix_refl ls

/-- The lines of a unit are lines of the file, one after the other. -/
theorem isInfix_unitBody {content : List Char} {ls : List Line}
    (h : ls ∈ unitRanges (fileLines content)) : unitBody ls <:+: fileLines content :=
  (unitBody_suffix ls).isInfix.trans
    ((List.infix_of_mem_flatten h).trans (flatten_unitRanges_suffix _).isInfix)

theorem tidy_of_mem_unitBody {content : List Char} {ls : List Line}
    (h : ls ∈ unitRanges (fileLines content)) : ∀ l ∈ unitBody ls, l.Tidy :=
  fun _ hl => tidy_of_mem_fileLines ((isInfix_unitBody h).subset hl)

theorem consecutive_unitBody {content : List Char} {ls : List Line}
    (h : ls ∈ unitRanges (fileLines content)) : Consecutive (unitBody ls) :=
  (consecutive_fileLines content).part (isInfix_unitBody h)

/-- The blocks of a file span some of its lines, in their order. -/
theorem sublist_blocks {source content : String} {units : List DocUnit}
    (h : splitUnits source content = .ok units) :
    ((units.flatMap DocUnit.blocks).flatMap Block.span).Sublist
      (List.range' 1 (lines content.toList).length) := by
  have hunit : ∀ ls ∈ unitRanges (fileLines content.toList), ∀ u,
      unitOfLines source ls = .ok (some u) →
      (u.blocks.flatMap Block.span).Sublist (ls.map Line.number) := by
    intro ls hls u hu
    rw [blocks_of_unitOfLines hu]
    exact (sublist_bodyBlocks (tidy_of_mem_unitBody hls) (consecutive_unitBody hls)).trans
      ((unitBody_suffix ls).sublist.map Line.number)
  have hfile := (flatten_unitRanges_suffix (fileLines content.toList)).sublist.map Line.number
  rw [fileLines, map_number_numberLines, List.map_flatten, ← List.flatMap_def] at hfile
  rw [List.flatMap_assoc]
  exact (sublist_splitUnits h hunit).trans hfile

/-- **Blocks partition the sections.** Each unit of a file was read from a range of its lines. Of
the lines from its first section keyword on, with the keywords blanked out, each that is not
blank stands in exactly one block. Each block stands in one section: it has the kind of that, the
lines of its text are those of the file from its number on, without the indentation of the
section, and it neither starts nor ends with a blank line. The numbers of the blocks increase from
block to block and from unit to unit, and are numbers of lines of the file. -/
theorem splitUnits_partition {source content : String} {units : List DocUnit}
    (h : splitUnits source content = .ok units) :
    (∀ u ∈ units, ∃ ls ∈ unitRanges (fileLines content.toList),
      unitOfLines source ls = .ok (some u)) ∧
    (∀ ls ∈ unitRanges (fileLines content.toList), ∀ u, unitOfLines source ls = .ok (some u) →
      Partitions (unitBody ls) u.blocks) ∧
    (units.flatMap DocUnit.blocks).Pairwise (fun b b' => b.line < b'.line) ∧
    ∀ b ∈ units.flatMap DocUnit.blocks,
      1 ≤ b.line ∧ b.line ≤ (lines content.toList).length := by
  have hlines := (map_line_sublist_span (units.flatMap DocUnit.blocks)).trans (sublist_blocks h)
  have hordered := (List.pairwise_lt_range' (s := 1)).sublist hlines
  refine ⟨fun u hu => mem_splitUnits h hu, fun ls hls u hu => ?_, ?_, fun b hb => ?_⟩
  · rw [blocks_of_unitOfLines hu]
    exact partitions_bodyBlocks (tidy_of_mem_unitBody hls) (consecutive_unitBody hls)
  · exact List.pairwise_map.1 hordered
  · have hmem := List.mem_range'_1.1 (hlines.subset (List.mem_map_of_mem hb))
    omega

/-- A section with a block that holds a blank line, and one whose keyword a block follows. -/
def mixerText : String :=
  "Service\torg.m\nInterface\torg.m.Mixer\nMethods:\n\tvoid Mute()\n\n\t\tDocs.\n\n\tvoid Reset()\n
Signals  Muted()\n"

/-- The unit that the text documents. -/
def mixerUnit : DocUnit :=
  ⟨"m.txt", "", "org.m", "org.m.Mixer", "", "", [
    ⟨.method, "void Mute()\n\n        Docs.".toList, 4⟩, ⟨.method, "void Reset()".toList, 8⟩,
    ⟨.signal, "Muted()".toList, 10⟩]⟩

theorem splitUnits_partition_mixerUnit :
    splitUnits "m.txt" mixerText = .ok [mixerUnit] ∧
      Partitions (unitBody (fileLines mixerText.toList)) mixerUnit.blocks := by
  have h : splitUnits "m.txt" mixerText = .ok [mixerUnit] := by decide +kernel
  exact ⟨h, (splitUnits_partition h).2.1 _ (by decide +kernel) mixerUnit (by decide +kernel)⟩

end BusDoc.Doc
