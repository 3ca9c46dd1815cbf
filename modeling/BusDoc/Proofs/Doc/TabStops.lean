import BusDoc.Doc.Block
import BusDoc.Proofs.Text.Trim
import Mathlib.Data.List.Induction
import Mathlib.Order.Bounds.Defs

/-!
# Tab stops

A line has columns, counted in characters from zero. A character takes one of them, and a tab goes
on to the next stop, of which there is one every `tabWidth` columns. The expanded line holds each
character at its column.

* `isLeast_tabStop`: the next stop is the first one behind the column of the tab.
* `expandFrom_append`, `length_expandFrom`: the column runs along with the text that is written.
* `expandTabs_eq`: the blanks at the end of a line may be removed before its tabs are expanded.
* `expandTabs_of_noTab`, `expandTabs_key`: what the expansion of tabs leaves of a line without
  tabs, and of a line with one tab between a key and a value.
* `expandTabs_expandTabs`: a line that was expanded once is not changed by expanding it again.
* `indentOf_expandTabs`: the expanded line is indented to the column that its blanks reach.
* `expandTabs_aligned`: where the characters of a line stand in the expanded line.
-/

namespace BusDoc.Doc

open Text

/-! ## Columns -/

/-- The tab stop behind a column. -/
def tabStop (column : Nat) : Nat := column + (tabWidth - column % tabWidth)

/-- The column behind a character. -/
def nextColumn (column : Nat) (c : Char) : Nat := if c = '\t' then tabStop column else column + 1

/-- The column behind a text that begins at a column. -/
def columnAfter (column : Nat) (s : List Char) : Nat := s.foldl nextColumn column

/-- The column of the character at place `i` of a line. -/
def columnOf (l : List Char) (i : Nat) : Nat := columnAfter 0 (l.take i)

theorem isLeast_tabStop (column : Nat) :
    IsLeast {n | tabWidth ∣ n ∧ column < n} (tabStop column) := by
  simp only [tabStop, tabWidth]
  constructor
  · constructor <;> omega
  · rintro n ⟨hstop, hbehind⟩
    omega

theorem columnAfter_char {c : Char} (hc : c ≠ '\t') (column : Nat) (s : List Char) :
    columnAfter column (c :: s) = columnAfter (column + 1) s := by
  rw [columnAfter, List.foldl_cons, nextColumn, if_neg hc]
  rfl

theorem columnAfter_of_noTab {s : List Char} (h : '\t' ∉ s) (column : Nat) :
    columnAfter column s = column + s.length := by
  induction s generalizing column with
  | nil => rfl
  | cons c s ih =>
    rw [List.mem_cons, not_or] at h
    rw [columnAfter_char (Ne.symm h.1), ih h.2, List.length_cons, Nat.add_right_comm, Nat.add_assoc]

theorem columnOf_succ {l : List Char} {i : Nat} {c : Char} (h : l[i]? = some c) :
    columnOf l (i + 1) = nextColumn (columnOf l i) c := by
  rw [columnOf, List.take_add_one, h]
  exact List.foldl_append

/-! ## Expanding -/

theorem expandFrom_tab (column : Nat) (s : List Char) :
    expandFrom column ('\t' :: s) =
      List.replicate (tabStop column - column) ' ' ++ expandFrom (tabStop column) s := by
  rw [tabStop, Nat.add_sub_cancel_left]
  rfl

theorem expandFrom_char {c : Char} (hc : c ≠ '\t') (column : Nat) (s : List Char) :
    expandFrom column (c :: s) = c :: expandFrom (column + 1) s := if_neg hc

theorem expandFrom_append (column : Nat) (s t : List Char) :
    expandFrom column (s ++ t) = expandFrom column s ++ expandFrom (columnAfter column s) t := by
  induction s generalizing column with
  | nil => rfl
  | cons c s ih =>
    by_cases hc : c = '\t'
    · subst hc
      rw [List.cons_append, expandFrom_tab, expandFrom_tab, ih, List.append_assoc]
      rfl
    · rw [List.cons_append, expandFrom_char hc, expandFrom_char hc, ih, columnAfter_char hc,
        List.cons_append]

/-- The column runs along with the text that is written. -/
theorem length_expandFrom (column : Nat) (s : List Char) :
    column + (expandFrom column s).length = columnAfter column s := by
  induction s generalizing column with
  | nil => rfl
  | cons c s ih =>
    by_cases hc : c = '\t'
    · subst hc
      have hstop : column ≤ tabStop column := Nat.le_add_right _ _
      rw [expandFrom_tab, List.length_append, List.length_replicate, ← Nat.add_assoc,
        Nat.add_sub_cancel' hstop, ih]
      rfl
    · rw [expandFrom_char hc, List.length_cons, Nat.add_comm _ 1, ← Nat.add_assoc, ih,
        columnAfter_char hc]

theorem expandFrom_of_noTab {s : List Char} (h : '\t' ∉ s) (column : Nat) :
    expandFrom column s = s := by
  induction s generalizing column with
  | nil => rfl
  | cons c s ih =>
    rw [List.mem_cons, not_or] at h
    rw [expandFrom_char (Ne.symm h.1), ih h.2]

theorem expandTabs_of_noTab {l : List Char} (h : '\t' ∉ l) : expandTabs l = trimEnd l := by
  rw [expandTabs, expandFrom_of_noTab h]

/-- A tab between a key and a value becomes the spaces up to the next tab stop. -/
theorem expandTabs_key {key value : List Char} (hk : '\t' ∉ key) (hv : '\t' ∉ value)
    (htrim : trimEnd value = value) (hne : value ≠ []) :
    expandTabs (key ++ '\t' :: value) =
      key ++ List.replicate (tabWidth - key.length % tabWidth) ' ' ++ value := by
  rw [expandTabs, expandFrom_append, expandFrom_of_noTab hk, columnAfter_of_noTab hk, Nat.zero_add,
    expandFrom, if_pos rfl]
  simp only
  rw [expandFrom_of_noTab hv, ← List.append_assoc, trimEnd_append htrim hne]

theorem mem_expandFrom {c : Char} {column : Nat} {s : List Char} (h : c ∈ expandFrom column s) :
    c = ' ' ∨ c ∈ s := by
  induction s generalizing column with
  | nil => cases h
  | cons d s ih =>
    rw [expandFrom] at h
    split at h
    next =>
      rcases List.mem_append.1 h with h | h
      · exact .inl (List.eq_of_mem_replicate h)
      · exact (ih h).imp id (List.mem_cons_of_mem _)
    next =>
      rcases List.mem_cons.1 h with rfl | h
      · exact .inr List.mem_cons_self
      · exact (ih h).imp id (List.mem_cons_of_mem _)

theorem tab_notMem_expandFrom (column : Nat) (s : List Char) : '\t' ∉ expandFrom column s := by
  induction s generalizing column with
  | nil => exact List.not_mem_nil
  | cons c s ih =>
    rw [expandFrom]
    split
    next =>
      rw [List.mem_append, not_or]
      exact ⟨fun h => absurd (List.eq_of_mem_replicate h) (by decide), ih _⟩
    next hc => exact List.not_mem_cons_of_ne_of_not_mem (Ne.symm hc) (ih _)

theorem mem_expandTabs {c : Char} {l : List Char} (h : c ∈ expandTabs l) : c = ' ' ∨ c ∈ l :=
  mem_expandFrom (mem_of_mem_dropEndWhile h)

theorem tab_notMem_expandTabs (l : List Char) : '\t' ∉ expandTabs l := fun h =>
  tab_notMem_expandFrom 0 l (mem_of_mem_dropEndWhile h)

/-- Expanded lines have no tabs to expand and no blanks to cut. -/
theorem expandTabs_expandTabs (l : List Char) : expandTabs (expandTabs l) = expandTabs l := by
  rw [expandTabs_of_noTab (tab_notMem_expandTabs l)]
  exact dropEndWhile_idem isBlank _

theorem allBlank_expandFrom {s : List Char} (h : allBlank s = true) (column : Nat) :
    allBlank (expandFrom column s) = true := by
  rw [allBlank, List.all_eq_true] at h ⊢
  intro c hc
  rcases mem_expandFrom hc with rfl | hc
  · rfl
  · exact h c hc

/-- A line that does not end in a blank is expanded to a text that does not. -/
theorem trimEnd_expandFrom {s : List Char} (h : trimEnd s = s) (column : Nat) :
    trimEnd (expandFrom column s) = expandFrom column s := by
  induction s using List.reverseRecOn with
  | nil => rfl
  | append_singleton s c =>
    have hc : isBlank c = false := isBlank_getLast h List.getLast?_concat
    have htab : c ≠ '\t' := by
      rintro rfl
      exact absurd hc (by decide)
    rw [expandFrom_append, expandFrom_char htab, expandFrom]
    exact trimEnd_append_singleton hc

theorem expandTabs_eq (l : List Char) : expandTabs l = expandFrom 0 (trimEnd l) := by
  obtain ⟨back, hcut, hback⟩ := exists_eq_dropEndWhile_append isBlank l
  have htrim : trimEnd (trimEnd l) = trimEnd l := dropEndWhile_idem isBlank l
  calc expandTabs l = trimEnd (expandFrom 0 (trimEnd l ++ back)) :=
        congrArg (fun s => trimEnd (expandFrom 0 s)) hcut
    _ = trimEnd (expandFrom 0 (trimEnd l)) := by
        rw [expandFrom_append, trimEnd_append_of_allBlank (allBlank_expandFrom hback _)]
    _ = expandFrom 0 (trimEnd l) := trimEnd_expandFrom htrim 0

/-! ## Indentation -/

/-- The spaces and tabs in front of the text of a line. A line without text has none: all its blanks
stand at its end. -/
def leadingBlanks (l : List Char) : List Char :=
  if allBlank l then [] else l.takeWhile isIndent

theorem takeWhile_trimEnd (l : List Char) :
    (trimEnd l).takeWhile isIndent = leadingBlanks l := by
  unfold leadingBlanks
  split
  next hl =>
    rw [trimEnd_of_allBlank hl]
    rfl
  next hl =>
    obtain ⟨back, hcut, hback⟩ := exists_eq_dropEndWhile_append isBlank l
    have htrim : trimEnd (trimEnd l) = trimEnd l := dropEndWhile_idem isBlank l
    -- the line goes on behind the blanks, so that those at its end do not matter
    have hlength : ((trimEnd l).takeWhile isIndent).length ≠ (trimEnd l).length := by
      intro hlength
      have hall := (List.takeWhile_prefix isIndent).eq_of_length hlength
      have hblank : allBlank (trimEnd l) = true :=
        allBlank_of_all_isIndent (hall ▸ List.all_takeWhile)
      rw [← trimEnd, eq_nil_of_allBlank htrim hblank] at hcut
      exact hl (hcut ▸ hback)
    conv_rhs => rw [hcut, ← trimEnd, List.takeWhile_append, if_neg hlength]

theorem expandFrom_leadingBlanks (l : List Char) :
    expandFrom 0 (leadingBlanks l) =
      List.replicate (columnAfter 0 (leadingBlanks l)) ' ' := by
  rw [List.eq_replicate_iff, ← length_expandFrom, Nat.zero_add]
  refine ⟨rfl, fun c hc => ?_⟩
  have htab : c ≠ '\t' := fun h => tab_notMem_expandFrom 0 _ (h ▸ hc)
  rcases mem_expandFrom hc with hspace | hc
  · exact hspace
  · rw [← takeWhile_trimEnd] at hc
    have hindent := List.all_eq_true.1 List.all_takeWhile c hc
    simpa [isIndent, htab] using hindent

/-- The expanded line is indented to the column that the leading blanks reach. -/
theorem indentOf_expandTabs (l : List Char) :
    indentOf (expandTabs l) = columnAfter 0 (leadingBlanks l) := by
  have hrest (column : Nat) :
      indentOf (expandFrom column ((trimEnd l).dropWhile isIndent)) = 0 := by
    have hhead := List.head?_dropWhile_not isIndent (trimEnd l)
    cases hl : (trimEnd l).dropWhile isIndent with
    | nil => rfl
    | cons c s =>
      have hc : isIndent c = false := by simpa [hl] using hhead
      have htab : c ≠ '\t' := by
        rintro rfl
        exact absurd hc (by decide)
      simp [expandFrom_char htab, indentOf, hc]
  rw [expandTabs_eq, ← List.takeWhile_append_dropWhile (p := isIndent) (l := trimEnd l),
    expandFrom_append, takeWhile_trimEnd, expandFrom_leadingBlanks, indentOf_spaces_append, hrest,
    Nat.add_zero]

/-! ## Alignment -/

/-- The text holds each character of the line at its column, `column i` for the one at place `i`,
and spaces from the column of a tab up to that of the next character, which stands at the first tab
stop behind the tab. -/
structure IsAligned (column : Nat → Nat) (l text : List Char) : Prop where
  start : column 0 = 0
  char : ∀ i c, l[i]? = some c → c ≠ '\t' →
    text[column i]? = some c ∧ column (i + 1) = column i + 1
  tab : ∀ i, l[i]? = some '\t' →
    IsLeast {n | tabWidth ∣ n ∧ column i < n} (column (i + 1)) ∧
      column (i + 1) ≤ column i + tabWidth ∧
      ∀ k, column i ≤ k → k < column (i + 1) → text[k]? = some ' '
  length : text.length = column l.length

/-- The character at place `i` is written behind a text that reaches to its column. -/
theorem exists_expandFrom_eq {l : List Char} {i : Nat} {c : Char} (h : l[i]? = some c) :
    ∃ front : List Char, front.length = columnOf l i ∧
      expandFrom 0 l = front ++ expandFrom (columnOf l i) (c :: l.drop (i + 1)) := by
  refine ⟨expandFrom 0 (l.take i), ?_, ?_⟩
  · rw [← Nat.zero_add (List.length _), length_expandFrom, columnOf]
  · obtain ⟨hlt, hc⟩ := List.getElem?_eq_some_iff.1 h
    rw [columnOf, ← expandFrom_append, ← hc, List.getElem_cons_drop, List.take_append_drop]

theorem isAligned_expandFrom (l : List Char) : IsAligned (columnOf l) l (expandFrom 0 l) := by
  constructor
  case start => rfl
  case char =>
    intro i c h hc
    obtain ⟨front, hfront, hexpand⟩ := exists_expandFrom_eq h
    constructor
    · rw [hexpand, expandFrom_char hc, ← hfront, List.getElem?_append_right (Nat.le_refl _),
        Nat.sub_self, List.getElem?_cons_zero]
    · rw [columnOf_succ h, nextColumn, if_neg hc]
  case tab =>
    intro i h
    obtain ⟨front, hfront, hexpand⟩ := exists_expandFrom_eq h
    have hnext : columnOf l (i + 1) = tabStop (columnOf l i) := columnOf_succ h
    rw [hnext]
    refine ⟨isLeast_tabStop _, Nat.add_le_add_left (Nat.sub_le _ _) _, fun k hk hstop => ?_⟩
    rw [hexpand, expandFrom_tab, List.getElem?_append_right (hfront ▸ hk),
      List.getElem?_append_left (by rw [List.length_replicate]; omega),
      List.getElem?_replicate_of_lt (by omega)]
  case length => rw [columnOf, List.take_length, ← length_expandFrom, Nat.zero_add]

/-- **Tab stops.** The expanded line has no tabs and no blanks at its end, and nothing is left to
expand in it. It holds the characters of the line up to the blanks at its end, in their order and
at their columns, with one to `tabWidth` spaces for a tab. Lines whose leading blanks reach the same
column are indented alike. -/
theorem expandTabs_aligned (l : List Char) :
    '\t' ∉ expandTabs l ∧ trimEnd (expandTabs l) = expandTabs l ∧
      IsAligned (columnOf (trimEnd l)) (trimEnd l) (expandTabs l) ∧
      expandTabs (expandTabs l) = expandTabs l ∧
      ∀ other : List Char,
        columnAfter 0 (leadingBlanks l) = columnAfter 0 (leadingBlanks other) →
          indentOf (expandTabs l) = indentOf (expandTabs other) := by
  refine ⟨tab_notMem_expandTabs l, dropEndWhile_idem isBlank _, ?_, expandTabs_expandTabs l,
    fun other h => ?_⟩
  · rw [expandTabs_eq]
    exact isAligned_expandFrom (trimEnd l)
  · rw [indentOf_expandTabs, indentOf_expandTabs, h]

/-- A line that mixes spaces and tabs, and ends in a tab. -/
def tabbedLine : List Char := "  \tuint16\tHandle \t".toList

/-- A line with spaces up to the first tab stop. -/
def spacedLine : List Char := "        object Owner".toList

theorem expandTabs_aligned_tabbedLine :
    columnAfter 0 (leadingBlanks tabbedLine) = columnAfter 0 (leadingBlanks spacedLine) ∧
      expandTabs tabbedLine = "        uint16  Handle".toList ∧
      IsAligned (columnOf (trimEnd tabbedLine)) (trimEnd tabbedLine) (expandTabs tabbedLine) ∧
      indentOf (expandTabs tabbedLine) = indentOf (expandTabs spacedLine) := by
  have hcolumn : columnAfter 0 (leadingBlanks tabbedLine) =
      columnAfter 0 (leadingBlanks spacedLine) := by decide
  obtain ⟨-, -, haligned, -, hindent⟩ := expandTabs_aligned tabbedLine
  exact ⟨hcolumn, by decide, haligned, hindent spacedLine hcolumn⟩

end BusDoc.Doc
