import BusDoc.Doc.Paragraph
import BusDoc.Proofs.Text.Join
import BusDoc.Proofs.Text.Lines
import Mathlib.Data.List.Forall2
import Mathlib.Data.List.MinMax
import Mathlib.Order.Bounds.Defs

/-!
# Paragraphs as they are cleaned

The lines of a paragraph lose the indentation that all share, blank ones become empty, and the text
is trimmed, which touches its first line alone: the others begin behind a line feed.

* `isLeast_commonIndent`, `commonIndent_le`: the indentation that is cut is the least of a line
  that is not blank.
* `dedents_dedentLine`: what is cut from a line are spaces and tabs, and the blanks at its end.
* `IsClean.trim_unlines`, `IsClean.cleanDocs_unlines`: nothing is cut from lines that are clean.
* `HasText.cleanDocs_eq`: the first line of a paragraph is trimmed, and the others are dedented.
* `IsCleaned.trimmedLines_eq`: the text of the lines is kept.
* `cleanDocs_cleaned`: what cleaning keeps of a paragraph, and that cleaning it again keeps all.
-/

namespace BusDoc.Doc

open Text

variable {n : Nat} {l out : List Char} {ls : List (List Char)}

/-! ## The indentation that lines share -/

theorem isLeast_commonIndent (h : ∃ l ∈ ls, allBlank l = false) :
    IsLeast {n | ∃ l ∈ ls, allBlank l = false ∧ indentOf l = n} (commonIndent ls) := by
  have hleast (ns : List Nat) : leastOr0 ns = ns.min?.getD 0 := by cases ns <;> rfl
  have hmem (n : Nat) : n ∈ (ls.filter fun l => !allBlank l).map indentOf ↔
      ∃ l ∈ ls, allBlank l = false ∧ indentOf l = n := by
    simp [and_assoc]
  obtain ⟨l, hl, hb⟩ := h
  obtain ⟨least, hmin⟩ := Option.isSome_iff_exists.1
    (List.isSome_min?_of_mem ((hmem (indentOf l)).2 ⟨l, hl, hb, rfl⟩))
  obtain ⟨hleastMem, hle⟩ := List.min?_eq_some_iff.1 hmin
  rw [commonIndent, hleast, hmin, Option.getD_some]
  exact ⟨(hmem least).1 hleastMem, fun n hn => hle n ((hmem n).2 hn)⟩

/-- No line that is not blank has less indentation than all have in common. -/
theorem commonIndent_le (hl : l ∈ ls) (hb : allBlank l = false) : commonIndent ls ≤ indentOf l :=
  (isLeast_commonIndent ⟨l, hl, hb⟩).2 ⟨l, hl, hb, rfl⟩

/-! ## A line without its indentation -/

/-- `out` is the line without `n` spaces and tabs at its front and without the blanks at its end. Of
a blank line nothing is left. -/
inductive Dedents (n : Nat) : (l out : List Char) → Prop
  | blank {l : List Char} (hl : allBlank l = true) : Dedents n l []
  | text {indent out back : List Char} (hindent : indent.all isIndent = true)
    (hlength : indent.length = n) (hback : allBlank back = true) (hend : trimEnd out = out)
    (hout : allBlank out = false) : Dedents n (indent ++ out ++ back) out

theorem dedents_dedentLine (h : allBlank l = false → n ≤ indentOf l) :
    Dedents n l (dedentLine n l) := by
  unfold dedentLine
  split
  next hl => exact .blank hl
  next hl =>
    have hn : n ≤ indentOf l := h (by simpa using hl)
    have hindent := all_take_of_le_indentOf hn
    obtain ⟨back, hcut, hback⟩ := exists_eq_dropEndWhile_append isBlank (l.drop n)
    have hline : l = l.take n ++ trimEnd (l.drop n) ++ back := by
      rw [List.append_assoc, trimEnd, ← hcut, List.take_append_drop]
    have hout : allBlank (trimEnd (l.drop n)) = false := by
      have hfront := allBlank_of_all_isIndent hindent
      unfold allBlank at hl hfront ⊢
      rw [hline, List.all_append, List.all_append, hfront, hback, Bool.true_and,
        Bool.and_true] at hl
      exact Bool.eq_false_iff.2 hl
    have hlength : (l.take n).length = n :=
      List.length_take_of_le (hn.trans (indentOf_le_length l))
    have h := Dedents.text hindent hlength hback (dropEndWhile_idem isBlank _) hout
    rwa [← trimEnd, ← hline] at h

theorem Dedents.trimEnd_eq (h : Dedents n l out) : trimEnd out = out := by
  cases h with
  | blank => rfl
  | text _ _ _ hend _ => exact hend

theorem Dedents.trim_eq (h : Dedents n l out) : trim out = trim l := by
  cases h with
  | blank hl => rw [trim_of_allBlank hl]; rfl
  | text hindent _ hback _ _ => rw [trim_padded (allBlank_of_all_isIndent hindent) hback]

theorem Dedents.ne_nil (h : Dedents n l out) (hl : allBlank l = false) : out ≠ [] := by
  rintro rfl
  cases h with
  | blank hblank =>
    rw [hblank] at hl
    cases hl
  | text _ _ _ _ hout => cases hout

theorem Dedents.mem (h : Dedents n l out) {c : Char} (hc : c ∈ out) : c ∈ l := by
  cases h with
  | blank => cases hc
  | text => simp [hc]

theorem map_trim_of_dedents {out : List (List Char)} (h : List.Forall₂ (Dedents n) ls out) :
    out.map trim = ls.map trim := by
  induction h with
  | nil => rfl
  | cons hl _ ih => rw [List.map_cons, List.map_cons, hl.trim_eq, ih]

/-! ## Clean lines -/

/-- Lines from which nothing is cut: they have no blanks at their ends, the first does not begin
with a blank, and neither it nor the last is empty. -/
structure IsClean (ls : List (List Char)) : Prop where
  feed : ∀ l ∈ ls, '\n' ∉ l
  ended : ∀ l ∈ ls, trimEnd l = l
  head : ∀ l ∈ ls.head?, l ≠ [] ∧ trim l = l
  last : ls.getLast? ≠ some []

namespace IsClean

theorem not_blank (h : IsClean ls) (hl : l ∈ ls) (hne : l ≠ []) : allBlank l = false :=
  Bool.eq_false_iff.2 fun hblank => hne (eq_nil_of_allBlank (h.ended l hl) hblank)

theorem lines_unlines (h : IsClean ls) : lines (unlines ls) = ls :=
  Text.lines_unlines h.feed h.ended h.last

theorem trim_unlines (h : IsClean ls) : trim (unlines ls) = unlines ls := by
  cases ls with
  | nil => rfl
  | cons first rest =>
    obtain ⟨hne, htrim⟩ := h.head first rfl
    obtain ⟨c, s, rfl⟩ := List.exists_cons_of_ne_nil hne
    obtain ⟨init, last, hinit⟩ : ∃ init last, (c :: s) :: rest = init ++ [last] :=
      ⟨_, _, (List.dropLast_concat_getLast (List.cons_ne_nil (c :: s) rest)).symm⟩
    have hend : trimEnd (unlines (init ++ [last])) = unlines (init ++ [last]) := by
      have htrimEnd : trimEnd last = last := h.ended last (by rw [hinit]; simp)
      have hlast : last ≠ [] := by
        rintro rfl
        exact h.last (by rw [hinit, List.getLast?_concat])
      simpa using trimEnd_unlines htrimEnd hlast 0
    rw [← hinit, unlines, join_cons_cons] at hend
    rw [unlines, join_cons_cons]
    exact trim_eq_self (isBlank_head htrim) hend

theorem commonIndent_eq (h : IsClean ls) : commonIndent ls = 0 := by
  cases ls with
  | nil => rfl
  | cons first rest =>
    obtain ⟨hne, htrim⟩ := h.head first rfl
    obtain ⟨c, s, rfl⟩ := List.exists_cons_of_ne_nil hne
    have hc := isBlank_head htrim
    have hle : commonIndent ((c :: s) :: rest) ≤ indentOf (c :: s) :=
      commonIndent_le List.mem_cons_self (by simp [allBlank, hc])
    have hindent : indentOf (c :: s) = 0 := by simp [indentOf, isIndent_of_not_isBlank hc]
    omega

/-- Cleaning lines that are clean keeps them all. -/
theorem cleanDocs_unlines (h : IsClean ls) : cleanDocs (unlines ls) = unlines ls := by
  have hdedent : ls.map (dedentLine 0) = ls := by
    refine (List.map_congr_left fun l hl => ?_).trans (List.map_id ls)
    have hend := h.ended l hl
    unfold dedentLine
    split
    next hblank => exact (eq_nil_of_allBlank hend hblank).symm
    next => exact hend
  rw [cleanDocs, h.lines_unlines, h.commonIndent_eq, hdedent, h.trim_unlines]

end IsClean

/-! ## The lines of a cleaned paragraph -/

/-- The lines `first :: rest`, of which the first and the last are not blank, stand between blank
ones. -/
structure HasText (ls front : List (List Char)) (first : List Char)
    (rest back : List (List Char)) : Prop where
  eq : ls = front ++ first :: rest ++ back
  blank_front : ∀ l ∈ front, allBlank l = true
  blank_back : ∀ l ∈ back, allBlank l = true
  text_first : allBlank first = false
  text_last : ∃ last, (first :: rest).getLast? = some last ∧ allBlank last = false

/-- `out` are the lines of a paragraph after it is cleaned: the blank ones around its text are gone,
the first one left is trimmed, and each that follows it is dedented by the least indentation of the
lines that are not blank. -/
inductive IsCleaned (ls : List (List Char)) : (out : List (List Char)) → Prop
  | nothing (hls : ∀ l ∈ ls, allBlank l = true) : IsCleaned ls []
  | text {n : Nat} {first : List Char} {front rest back out : List (List Char)}
    (htext : HasText ls front first rest back)
    (hn : IsLeast {k | ∃ l ∈ ls, allBlank l = false ∧ indentOf l = k} n)
    (hrest : List.Forall₂ (Dedents n) rest out) : IsCleaned ls (trim first :: out)

theorem exists_hasText (h : ∃ l ∈ ls, allBlank l = false) :
    ∃ front first rest back, HasText ls front first rest back := by
  have hfound : (ls.find? fun l => !allBlank l).isSome := by simpa [List.find?_isSome] using h
  obtain ⟨first, hfind⟩ := Option.isSome_iff_exists.1 hfound
  obtain ⟨hfirst, front, tail, rfl, hfront⟩ := List.find?_eq_some_iff_append.1 hfind
  have hfirst : allBlank first = false := by simpa using hfirst
  obtain ⟨rest, back, rfl, hback, hlast⟩ := exists_upTo_last (p := allBlank) hfirst tail
  exact ⟨front, first, rest, back, by simp, by simpa using hfront, hback, hfirst, hlast⟩

theorem map_dedentLine_of_blank (h : ∀ l ∈ ls, allBlank l = true) (n : Nat) :
    ls.map (dedentLine n) = List.replicate ls.length [] :=
  List.map_eq_replicate_iff.2 fun l hl => if_pos (h l hl)

theorem cleanDocs_of_blank {raw : List Char} (h : ∀ l ∈ lines raw, allBlank l = true) :
    cleanDocs raw = [] := by
  rw [cleanDocs, map_dedentLine_of_blank h]
  cases (lines raw).length with
  | zero => rfl
  | succ n => rw [unlines_empties, trim_of_allBlank (allBlank_feeds n)]

section

variable {raw first : List Char} {front rest back : List (List Char)}

/-- The first line trimmed and the others dedented are clean lines. -/
theorem HasText.isClean (h : HasText ls front first rest back) (hfeed : ∀ l ∈ ls, '\n' ∉ l)
    (hdedents : ∀ l ∈ ls, Dedents n l (dedentLine n l)) :
    IsClean (trim first :: rest.map (dedentLine n)) := by
  have hmem : ∀ l ∈ first :: rest, l ∈ ls := fun l hl => by
    rw [h.eq]
    exact List.mem_append_left _ (List.mem_append_right _ hl)
  have hrest : ∀ l ∈ rest, Dedents n l (dedentLine n l) := fun l hl =>
    hdedents l (hmem l (List.mem_cons_of_mem _ hl))
  have hne : trim first ≠ [] := fun e => by
    have hfirst := h.text_first
    rw [trim_eq_nil_iff.1 e] at hfirst
    cases hfirst
  constructor
  case feed =>
    rw [List.forall_mem_cons]
    refine ⟨fun hc => hfeed first (hmem first List.mem_cons_self) (mem_of_mem_trim hc),
      fun out hout => ?_⟩
    obtain ⟨l, hl, rfl⟩ := List.mem_map.1 hout
    exact fun hc => hfeed l (hmem l (List.mem_cons_of_mem _ hl)) ((hrest l hl).mem hc)
  case ended =>
    rw [List.forall_mem_cons]
    refine ⟨trimEnd_of_trim (trim_trim first), fun out hout => ?_⟩
    obtain ⟨l, hl, rfl⟩ := List.mem_map.1 hout
    exact (hrest l hl).trimEnd_eq
  case head =>
    rintro l ⟨⟩
    exact ⟨hne, trim_trim first⟩
  case last =>
    obtain ⟨last, hlast, hblank⟩ := h.text_last
    rw [List.getLast?_cons] at hlast ⊢
    rw [List.getLast?_map]
    cases hl : rest.getLast? with
    | none => simpa using hne
    | some l =>
      obtain rfl : l = last := by simpa [hl] using hlast
      simpa using (hrest l (List.mem_of_getLast? hl)).ne_nil hblank

/-- The text of a paragraph is its first line trimmed and the others dedented. -/
theorem HasText.cleanDocs_eq (h : HasText (lines raw) front first rest back)
    (hn : commonIndent (lines raw) = n) (hfirst : Dedents n first (dedentLine n first))
    (hclean : IsClean (trim first :: rest.map (dedentLine n))) :
    cleanDocs raw = unlines (trim first :: rest.map (dedentLine n)) := by
  have hhead := takeWhile_append_trim hfirst.trimEnd_eq
  rw [hfirst.trim_eq] at hhead
  calc cleanDocs raw = trim (unlines (dedentLine n first :: rest.map (dedentLine n))) := by
        rw [cleanDocs, hn, h.eq, List.map_append, List.map_append,
          map_dedentLine_of_blank h.blank_front, map_dedentLine_of_blank h.blank_back,
          trim_unlines_empties (by simp), List.map_cons]
    _ = trim (unlines (trim first :: rest.map (dedentLine n))) := by
        rw [← hhead, unlines, join_append_cons, trim,
          trimStart_append_of_allBlank List.all_takeWhile]
        rfl
    _ = unlines (trim first :: rest.map (dedentLine n)) := hclean.trim_unlines

end

/-- Cleaning gives clean lines, each from the line at its place. -/
theorem exists_cleaned (raw : List Char) :
    ∃ out, cleanDocs raw = unlines out ∧ IsClean out ∧ IsCleaned (lines raw) out := by
  by_cases h : ∃ l ∈ lines raw, allBlank l = false
  · obtain ⟨front, first, rest, back, htext⟩ := exists_hasText h
    have hleast := isLeast_commonIndent h
    have hdedents : ∀ l ∈ lines raw,
        Dedents (commonIndent (lines raw)) l (dedentLine (commonIndent (lines raw)) l) :=
      fun l hl => dedents_dedentLine (commonIndent_le hl)
    generalize hn : commonIndent (lines raw) = n at hleast hdedents
    have hclean := htext.isClean (fun l hl => not_mem_of_mem_lines hl) hdedents
    have hfirst := hdedents first (by simp [htext.eq])
    refine ⟨_, htext.cleanDocs_eq hn hfirst hclean, hclean, .text htext hleast ?_⟩
    rw [List.forall₂_map_right_iff, List.forall₂_same]
    exact fun l hl => hdedents l (by simp [htext.eq, hl])
  · have hblank : ∀ l ∈ lines raw, allBlank l = true := by simpa using h
    exact ⟨[], cleanDocs_of_blank hblank, ⟨by simp, by simp, by simp, by simp⟩, .nothing hblank⟩

/-! ## What is kept -/

/-- The lines that are not blank, trimmed. -/
def trimmedLines (ls : List (List Char)) : List (List Char) :=
  (ls.filter fun l => !allBlank l).map trim

theorem trimmedLines_of_blank (h : ∀ l ∈ ls, allBlank l = true) : trimmedLines ls = [] := by
  rw [trimmedLines, List.filter_eq_nil_iff.2 fun l hl => by simp [h l hl], List.map_nil]

theorem trimmedLines_append (ls ms : List (List Char)) :
    trimmedLines (ls ++ ms) = trimmedLines ls ++ trimmedLines ms := by
  rw [trimmedLines, List.filter_append, List.map_append]
  rfl

/-- Lines may be trimmed before the blank ones are left out. -/
theorem trimmedLines_eq_filter (ls : List (List Char)) :
    trimmedLines ls = (ls.map trim).filter fun l => !l.isEmpty := by
  have hblank (l : List Char) : allBlank l = (trim l).isEmpty := by
    rw [Bool.eq_iff_iff, ← trim_eq_nil_iff, List.isEmpty_iff]
  rw [trimmedLines, List.filter_map]
  simp only [hblank, Function.comp_def]

theorem IsCleaned.trimmedLines_eq {out : List (List Char)} (h : IsCleaned ls out) :
    trimmedLines out = trimmedLines ls := by
  cases h with
  | nothing hls => rw [trimmedLines_of_blank hls]; rfl
  | text htext _ hrest =>
    rw [htext.eq, trimmedLines_append, trimmedLines_append,
      trimmedLines_of_blank htext.blank_front, trimmedLines_of_blank htext.blank_back,
      List.nil_append, List.append_nil, trimmedLines_eq_filter, trimmedLines_eq_filter,
      List.map_cons, List.map_cons, trim_trim, map_trim_of_dedents hrest]

/-- **Paragraphs.** Cleaning a paragraph twice is cleaning it once. The text of its lines is kept;
no line that is left ends in a blank, and the first and the last one are not blank. The lines from
the first to the last that is not blank are kept in number and place: the first is trimmed, and from
each other the common indentation and the blanks at its end are cut. -/
theorem cleanDocs_cleaned (raw : List Char) :
    cleanDocs (cleanDocs raw) = cleanDocs raw ∧
      trimmedLines (lines (cleanDocs raw)) = trimmedLines (lines raw) ∧
      (∀ l ∈ lines (cleanDocs raw), trimEnd l = l) ∧
      (cleanDocs raw = [] ∨
        (∃ first, (lines (cleanDocs raw)).head? = some first ∧ allBlank first = false) ∧
          ∃ last, (lines (cleanDocs raw)).getLast? = some last ∧ allBlank last = false) ∧
      unlines (lines (cleanDocs raw)) = cleanDocs raw ∧
      IsCleaned (lines raw) (lines (cleanDocs raw)) := by
  obtain ⟨out, hout, hclean, hcleaned⟩ := exists_cleaned raw
  rw [hout, hclean.lines_unlines]
  refine ⟨hclean.cleanDocs_unlines, hcleaned.trimmedLines_eq, hclean.ended, ?_, rfl, hcleaned⟩
  cases out with
  | nil => exact .inl rfl
  | cons first rest =>
    have hne := List.cons_ne_nil first rest
    have hlast := List.getLast?_eq_some_getLast hne
    refine .inr ⟨⟨first, rfl, hclean.not_blank List.mem_cons_self (hclean.head first rfl).1⟩, _,
      hlast, hclean.not_blank (List.getLast_mem hne) fun e => ?_⟩
    exact hclean.last (e ▸ hlast)

/-- Docs in which the line with the least indentation is not the first, and goes on with a blank
that is neither a space nor a tab. -/
def sleepDocs : List Char :=
  "\n      Moves \r\n    to\tsleep\n \u3000\n\t\t\t\u3000soon \n\n".toList

theorem cleanDocs_cleaned_sleepDocs :
    cleanDocs sleepDocs = "Moves\n to\tsleep\n\n\u3000soon".toList ∧
      "\u3000soon".toList ∈ lines (cleanDocs sleepDocs) ∧
      trimEnd "\u3000soon".toList = "\u3000soon".toList ∧
      cleanDocs (cleanDocs sleepDocs) = cleanDocs sleepDocs ∧
      IsCleaned (lines sleepDocs) (lines (cleanDocs sleepDocs)) := by
  obtain ⟨htwice, -, hended, -, -, hcleaned⟩ := cleanDocs_cleaned sleepDocs
  have hmem : "\u3000soon".toList ∈ lines (cleanDocs sleepDocs) := by decide
  exact ⟨by decide, hmem, hended _ hmem, htwice, hcleaned⟩

end BusDoc.Doc
