import BusDoc.Proofs.Doc.SignatureLine
import BusDoc.Proofs.Text.Letter
import BusDoc.Proofs.Text.Words
import Mathlib.Data.List.Forall2

/-!
# Which errors a paragraph declares

The errors of a method are listed behind a marker, `Possible errors:`, and on the lines right below
it that hold error names and nothing else. Here the markers, the lines of a list and the names are
described on the text, and the reader is shown to find what they describe.

* `afterMarker?_eq_some_iff`, `markerRest?_eq_some_iff`: what stands behind a marker, and behind the
  first one of a line.
* `isErrorName_iff`: error names are identifiers joined by dots.
* `ListsError`: a name is listed on a marker line or in a run of list lines under one.
* `mem_errorsOfLines_iff`: the invariant of the reader, which also goes on with a list from above.
* `declaredErrors_exact`: the errors of a paragraph and of a block.
-/

namespace BusDoc.Doc

open Text

variable {line rest s t : List Char}

/-! ## Markers -/

/-- The text is the word in any case. -/
def IsInAnyCase (word text : List Char) : Prop :=
  List.Forall₂ (fun a c => isLetter a c = true) word text

/-- The text is `possible errors:` in any case, with blanks between its words and in front of the
colon. -/
def IsMarker (m : List Char) : Prop :=
  ∃ possible gap errors space, IsInAnyCase "possible".toList possible ∧
    gap ≠ [] ∧ allBlank gap = true ∧ IsInAnyCase "errors".toList errors ∧ allBlank space = true ∧
    m = possible ++ gap ++ errors ++ space ++ [':']

/-- The line holds a marker. -/
def IsMarkerLine (line : List Char) : Prop := ∃ m, IsMarker m ∧ m <:+: line

/-- The line holds a marker, and `rest` stands behind the first one. -/
def IsMarked (line rest : List Char) : Prop :=
  ∃ front m, IsMarker m ∧ line = front ++ m ++ rest ∧
    ∀ front' m' rest', IsMarker m' → line = front' ++ m' ++ rest' → front.length ≤ front'.length

theorem afterWord?_eq_some_iff {word : List Char} :
    afterWord? word s = some rest ↔ ∃ text, IsInAnyCase word text ∧ s = text ++ rest := by
  induction word generalizing s with
  | nil => simp [afterWord?, IsInAnyCase]
  | cons a word ih =>
    cases s with
    | nil =>
      simp only [afterWord?, IsInAnyCase, reduceCtorEq, false_iff]
      rintro ⟨text, htext, hnil⟩
      cases htext
      simp at hnil
    | cons c s =>
      rw [afterWord?]
      split
      next hc =>
        rw [ih]
        constructor
        · rintro ⟨text, htext, rfl⟩
          exact ⟨c :: text, .cons hc htext, rfl⟩
        · rintro ⟨text, htext, hcut⟩
          cases htext with
          | cons hd htext =>
            obtain ⟨rfl, rfl⟩ := List.cons.inj hcut
            exact ⟨_, htext, rfl⟩
      next hc =>
        refine iff_of_false nofun ?_
        rintro ⟨text, htext, hcut⟩
        cases htext with
        | cons hd htext =>
          obtain ⟨rfl, rfl⟩ := List.cons.inj hcut
          exact hc hd

theorem not_isBlank_of_isLetter {a c : Char} (ha : isAsciiLower a = true)
    (h : isLetter a c = true) : isBlank c = false := by
  simp only [isLetter, Bool.or_eq_true, Bool.and_eq_true, beq_iff_eq] at h
  obtain hc | ⟨-, hc⟩ := h
  · have hrest : isIdentRest c = true := by
      cases hupper : isAsciiUpper c with
      | true => exact isIdentRest_of_isAsciiUpper hupper
      | false =>
        obtain rfl : c = a := by simpa [asciiLower, hupper] using hc
        simp [isIdentRest, isAsciiAlnum, isAsciiAlpha, ha]
    exact (plain_of_isIdentRest hrest).1
  · simp [isBlank, hc]

theorem IsInAnyCase.head {a : Char} {word text : List Char} (ha : isAsciiLower a = true)
    (h : IsInAnyCase (a :: word) text) : ∃ c text', text = c :: text' ∧ isBlank c = false := by
  cases h with
  | cons hc _ => exact ⟨_, _, rfl, not_isBlank_of_isLetter ha hc⟩

/-- Blanks in front of something else are cut, and no more. -/
theorem dropWhile_isBlank {c : Char} {gap : List Char} (hgap : allBlank gap = true)
    (hc : isBlank c = false) (t : List Char) : (gap ++ c :: t).dropWhile isBlank = c :: t :=
  (trimStart_append_of_allBlank hgap).trans (trimStart_cons_of_not hc)

theorem exists_gap (s : List Char) :
    ∃ gap, allBlank gap = true ∧ s = gap ++ s.dropWhile isBlank :=
  ⟨s.takeWhile isBlank, List.all_takeWhile, List.takeWhile_append_dropWhile.symm⟩

/-- The marker is read word by word: its two words, a gap between them, and the colon. -/
theorem afterMarker?_eq_some : afterMarker? s = some rest ↔
    ∃ s₁, afterWord? "possible".toList s = some s₁ ∧ (s₁.dropWhile isBlank).length ≠ s₁.length ∧
      ∃ s₂, afterWord? "errors".toList (s₁.dropWhile isBlank) = some s₂ ∧
        s₂.dropWhile isBlank = ':' :: rest := by
  simp only [afterMarker?, Option.bind_eq_bind, Option.bind_eq_some_iff]
  refine exists_congr fun s₁ => and_congr_right fun _ => ?_
  split
  next hlength => simp [hlength]
  next hlength =>
    simp only [Option.bind_eq_some_iff, ne_eq, hlength, not_false_iff, true_and]
    refine exists_congr fun s₂ => and_congr_right fun _ => ?_
    split
    next r hcolon => simp [hcolon]
    next hother =>
      refine iff_of_false nofun fun hcolon => ?_
      exact hother _ hcolon

theorem afterMarker?_eq_some_iff :
    afterMarker? s = some rest ↔ ∃ m, IsMarker m ∧ s = m ++ rest := by
  simp only [afterMarker?_eq_some, afterWord?_eq_some_iff]
  constructor
  · rintro ⟨s₁, ⟨possible, hpossible, rfl⟩, hlength, s₂, ⟨errors, herrors, hs₁⟩, hs₂⟩
    obtain ⟨gap, hgap, hcut⟩ := exists_gap s₁
    obtain ⟨space, hspace, hcut'⟩ := exists_gap s₂
    have hne : gap ≠ [] := by
      rintro rfl
      exact hlength (congrArg List.length hcut.symm)
    refine ⟨_, ⟨possible, gap, errors, space, hpossible, hne, hgap, herrors, hspace, rfl⟩, ?_⟩
    rw [hcut, hs₁, hcut', hs₂]
    simp
  · rintro ⟨m, ⟨possible, gap, errors, space, hpossible, hne, hgap, herrors, hspace, rfl⟩, rfl⟩
    obtain ⟨c, errors', rfl, hc⟩ := herrors.head (by decide)
    have hrest : (gap ++ c :: (errors' ++ (space ++ ':' :: rest))).dropWhile isBlank =
        c :: (errors' ++ (space ++ ':' :: rest)) := dropWhile_isBlank hgap hc _
    refine ⟨gap ++ c :: (errors' ++ (space ++ ':' :: rest)), ⟨possible, hpossible, by simp⟩, ?_,
      space ++ ':' :: rest, ⟨c :: errors', herrors, by rw [hrest]; rfl⟩,
      dropWhile_isBlank hspace (by decide) rest⟩
    have hpos := List.length_pos_iff.2 hne
    rw [hrest, List.length_append]
    omega

theorem IsMarker.ne_nil {m : List Char} (h : IsMarker m) : m ≠ [] := by
  obtain ⟨possible, gap, errors, space, -, -, -, -, -, rfl⟩ := h
  simp

/-- A line that begins with a marker is marked there. -/
theorem isMarked_iff_of_afterMarker? {r : List Char} (h : afterMarker? line = some r) :
    IsMarked line rest ↔ r = rest := by
  obtain ⟨m, hm, hline⟩ := afterMarker?_eq_some_iff.1 h
  constructor
  · rintro ⟨front, m', hm', hcut, hfirst⟩
    have hfront : front = [] :=
      List.eq_nil_of_length_eq_zero (Nat.le_zero.1 (hfirst [] m r hm hline))
    rw [hfront, List.nil_append] at hcut
    exact Option.some.inj (h.symm.trans (afterMarker?_eq_some_iff.2 ⟨m', hm', hcut⟩))
  · rintro rfl
    exact ⟨[], m, hm, hline, fun _ _ _ _ _ => Nat.zero_le _⟩

/-- A line that does not begin with a marker is marked where the line behind its first character
is. -/
theorem isMarked_cons_iff {c : Char} (h : afterMarker? (c :: line) = none) :
    IsMarked (c :: line) rest ↔ IsMarked line rest := by
  have hfront {front m r : List Char} (hm : IsMarker m) (hcut : c :: line = front ++ m ++ r) :
      ∃ front', front = c :: front' ∧ line = front' ++ m ++ r := by
    cases front with
    | nil => exact absurd (afterMarker?_eq_some_iff.2 ⟨m, hm, hcut⟩) (by simp [h])
    | cons d front =>
      rw [List.cons_append, List.cons_append] at hcut
      obtain ⟨rfl, hrest⟩ := List.cons.inj hcut
      exact ⟨front, rfl, hrest⟩
  constructor
  · rintro ⟨front, m, hm, hcut, hfirst⟩
    obtain ⟨front, rfl, hrest⟩ := hfront hm hcut
    refine ⟨front, m, hm, hrest, fun front' m' r' hm' hcut' => ?_⟩
    exact Nat.le_of_succ_le_succ (hfirst (c :: front') m' r' hm' (by rw [hcut']; rfl))
  · rintro ⟨front, m, hm, rfl, hfirst⟩
    refine ⟨c :: front, m, hm, rfl, fun front' m' r' hm' hcut' => ?_⟩
    obtain ⟨front', rfl, hrest⟩ := hfront hm' hcut'
    exact Nat.succ_le_succ (hfirst front' m' r' hm' hrest)

theorem markerRest?_eq_some_iff : markerRest? line = some rest ↔ IsMarked line rest := by
  induction line with
  | nil =>
    refine iff_of_false nofun ?_
    rintro ⟨front, m, hm, hcut, -⟩
    exact hm.ne_nil (by simp_all)
  | cons c line ih =>
    rw [markerRest?]
    split
    next r hr => rw [isMarked_iff_of_afterMarker? hr, Option.some.injEq]
    next hnone => rw [isMarked_cons_iff hnone, ih]

/-- A marker in a line has a first one in front of it or is the first. -/
theorem isSome_markerRest?_iff : (markerRest? line).isSome = true ↔ IsMarkerLine line := by
  constructor
  · intro h
    obtain ⟨rest, hrest⟩ := Option.isSome_iff_exists.1 h
    obtain ⟨front, m, hm, hcut, -⟩ := markerRest?_eq_some_iff.1 hrest
    exact ⟨m, hm, front, rest, hcut.symm⟩
  · rintro ⟨m, hm, front, rest, rfl⟩
    induction front with
    | nil =>
      obtain ⟨c, m', hcons⟩ := List.exists_cons_of_ne_nil hm.ne_nil
      have hafter : afterMarker? (c :: (m' ++ rest)) = some rest :=
        afterMarker?_eq_some_iff.2 ⟨m, hm, by rw [hcons]; rfl⟩
      rw [List.nil_append, hcons, List.cons_append, markerRest?, hafter]
      rfl
    | cons c front ih =>
      rw [List.cons_append, List.cons_append, markerRest?]
      split
      next => rfl
      next => exact ih

theorem markerRest?_eq_none_iff : markerRest? line = none ↔ ¬ IsMarkerLine line := by
  rw [← isSome_markerRest?_iff, Bool.not_eq_true, Option.isSome_eq_false_iff,
    Option.isNone_iff_eq_none]

theorem isMarkerLine_of_isMarked (h : IsMarked line rest) : IsMarkerLine line :=
  isSome_markerRest?_iff.1 (by rw [markerRest?_eq_some_iff.2 h]; rfl)

/-! ## Names -/

/-- What stands between the names of a list. -/
def isListSep (c : Char) : Bool := isBlank c || c == ','

/-- Two or more identifiers joined by dots. -/
def IsDottedName (w : List Char) : Prop :=
  ∃ parts : List (List Char), 2 ≤ parts.length ∧ (∀ q ∈ parts, isIdent q = true) ∧
    w = join ['.'] parts

theorem isErrorName_iff {w : List Char} : isErrorName w = true ↔ IsDottedName w := by
  rw [isErrorName, Bool.and_eq_true, decide_eq_true_iff, List.all_eq_true]
  constructor
  · rintro ⟨hlength, hparts⟩
    exact ⟨_, hlength, hparts, (join_splitOn '.' w).symm⟩
  · rintro ⟨parts, hlength, hparts, rfl⟩
    have hne : parts ≠ [] := by
      rintro rfl
      simp at hlength
    have hdot : ∀ q ∈ parts, '.' ∉ q := by
      intro q hq hmem
      have hident := hparts q hq
      cases q with
      | nil => cases hmem
      | cons c q =>
        rw [isIdent, Bool.and_eq_true, List.all_eq_true] at hident
        obtain rfl | hmem := List.mem_cons.1 hmem
        · cases hident.1
        · cases hident.2 _ hmem
    rw [splitOn_join hne hdot]
    exact ⟨hlength, hparts⟩

theorem mem_listWords_iff {w : List Char} : w ∈ listWords line ↔ IsToken isListSep line w :=
  mem_words_iff

/-! ## Lists -/

/-- The line holds error names and nothing else. -/
def IsListLine (line : List Char) : Prop :=
  ¬ IsMarkerLine line ∧ (∃ w, IsToken isListSep line w) ∧
    ∀ w, IsToken isListSep line w → IsDottedName w

/-- The name stands on a list line that only list lines stand above. -/
def GoesOnWith (ls : List (List Char)) (w : List Char) : Prop :=
  ∃ run line after, ls = run ++ line :: after ∧ (∀ l ∈ run, IsListLine l) ∧ IsListLine line ∧
    IsToken isListSep line w

/-- The name is listed: it stands behind the first marker of a line, or on a list line from which
an unbroken run of list lines leads up to a line with a marker. -/
inductive ListsError (ls : List (List Char)) (w : List Char) : Prop
  | onMarkerLine {line rest : List Char} (mem : line ∈ ls) (marked : IsMarked line rest)
      (token : IsToken isListSep rest w) (name : IsDottedName w) : ListsError ls w
  | onListLine {before after run : List (List Char)} {marker line : List Char}
      (lines : ls = before ++ marker :: (run ++ line :: after)) (marked : IsMarkerLine marker)
      (unbroken : ∀ l ∈ run, IsListLine l) (listed : IsListLine line)
      (token : IsToken isListSep line w) : ListsError ls w

variable {ls : List (List Char)} {w : List Char}

theorem isListLine_iff : IsListLine line ↔
    markerRest? line = none ∧
      (!(listWords line).isEmpty && (listWords line).all isErrorName) = true := by
  have hsome : (∃ w, w ∈ listWords line) ↔ listWords line ≠ [] :=
    ⟨fun ⟨_, h⟩ => List.ne_nil_of_mem h, List.exists_mem_of_ne_nil _⟩
  rw [IsListLine, markerRest?_eq_none_iff, Bool.and_eq_true, List.all_eq_true]
  simp only [← mem_listWords_iff, ← isErrorName_iff, Bool.not_eq_true', List.isEmpty_eq_false_iff,
    hsome]

theorem not_goesOnWith_nil : ¬ GoesOnWith [] w := by
  rintro ⟨run, line, after, h, -⟩
  simp at h

theorem goesOnWith_cons_iff :
    GoesOnWith (line :: ls) w ↔ IsListLine line ∧ (IsToken isListSep line w ∨ GoesOnWith ls w) := by
  constructor
  · rintro ⟨run, l, after, hcut, hrun, hl, hw⟩
    cases run with
    | nil =>
      obtain ⟨rfl, rfl⟩ := List.cons.inj hcut
      exact ⟨hl, .inl hw⟩
    | cons r run =>
      obtain ⟨rfl, rfl⟩ := List.cons.inj hcut
      rw [List.forall_mem_cons] at hrun
      exact ⟨hrun.1, .inr ⟨run, l, after, rfl, hrun.2, hl, hw⟩⟩
  · rintro ⟨hline, hw | ⟨run, l, after, rfl, hrun, hl, hw⟩⟩
    · exact ⟨[], line, ls, rfl, nofun, hline, hw⟩
    · exact ⟨line :: run, l, after, rfl, List.forall_mem_cons.2 ⟨hline, hrun⟩, hl, hw⟩

theorem not_listsError_nil : ¬ ListsError [] w := by
  rintro (⟨mem, -, -, -⟩ | ⟨lines, -, -, -, -⟩)
  · cases mem
  · simp at lines

theorem listsError_cons_iff :
    ListsError (line :: ls) w ↔
      (∃ rest, IsMarked line rest ∧ IsToken isListSep rest w ∧ IsDottedName w) ∨
        (IsMarkerLine line ∧ GoesOnWith ls w) ∨ ListsError ls w := by
  constructor
  · rintro (⟨mem, marked, token, name⟩ | @⟨before, after, run, marker, l, hcut, marked, unbroken,
      listed, token⟩)
    · obtain rfl | mem := List.mem_cons.1 mem
      · exact .inl ⟨_, marked, token, name⟩
      · exact .inr (.inr (.onMarkerLine mem marked token name))
    · cases before with
      | nil =>
        obtain ⟨rfl, rfl⟩ := List.cons.inj hcut
        exact .inr (.inl ⟨marked, run, l, after, rfl, unbroken, listed, token⟩)
      | cons b before =>
        obtain ⟨rfl, rfl⟩ := List.cons.inj hcut
        exact .inr (.inr (.onListLine rfl marked unbroken listed token))
  · rintro (⟨rest, marked, token, name⟩ | ⟨marked, run, l, after, rfl, unbroken, listed, token⟩ | h)
    · exact .onMarkerLine List.mem_cons_self marked token name
    · exact .onListLine (List.nil_append _).symm marked unbroken listed token
    · cases h with
      | onMarkerLine mem marked token name =>
        exact .onMarkerLine (List.mem_cons_of_mem _ mem) marked token name
      | @onListLine before after run marker l hcut marked unbroken listed token =>
        rw [hcut, ← List.cons_append]
        exact .onListLine rfl marked unbroken listed token

/-- Going on from `inList`, the reader finds what is listed below and what belongs to the list that
it is in. -/
theorem mem_errorsOfLines_iff {inList : Bool} :
    w ∈ errorsOfLines inList ls ↔ ListsError ls w ∨ (inList = true ∧ GoesOnWith ls w) := by
  induction ls generalizing inList with
  | nil => simp [errorsOfLines, not_listsError_nil, not_goesOnWith_nil]
  | cons line ls ih =>
    rw [errorsOfLines, listsError_cons_iff, goesOnWith_cons_iff]
    cases hmarker : markerRest? line with
    | some rest =>
      have hmarked {r : List Char} : IsMarked line r ↔ rest = r := by
        rw [← markerRest?_eq_some_iff, hmarker, Option.some.injEq]
      have hline : IsMarkerLine line := isMarkerLine_of_isMarked (hmarked.2 rfl)
      have hnot : ¬ IsListLine line := fun h => h.1 hline
      simp only [List.mem_append, List.mem_filter, mem_listWords_iff, isErrorName_iff, ih, hmarked,
        hline, hnot, exists_eq_left', true_and, false_and, and_false, or_false]
      exact or_congr_right or_comm
    | none =>
      have hnot : ¬ IsMarkerLine line := markerRest?_eq_none_iff.1 hmarker
      have hunmarked {r : List Char} : ¬ IsMarked line r := fun h =>
        hnot (isMarkerLine_of_isMarked h)
      simp only [hunmarked, hnot, false_and, exists_false, false_or]
      have hlist : IsListLine line ↔ _ := isListLine_iff
      rw [hmarker] at hlist
      cases inList with
      | false => simp [ih]
      | true =>
        by_cases hl : IsListLine line
        · have hcond := (hlist.1 hl).2
          simp only [Bool.true_and, hcond, if_true, List.mem_append, mem_listWords_iff, ih, hl,
            true_and]
          exact or_left_comm
        · have hcond : (!(listWords line).isEmpty && (listWords line).all isErrorName) = false := by
            rw [← Bool.not_eq_true]
            exact fun h => hl (hlist.2 ⟨rfl, h⟩)
          simp [hcond, ih, hl]

/-! ## Lists that end -/

theorem goesOnWith_append_iff (hline : ¬ IsListLine line) (after : List (List Char)) :
    GoesOnWith (ls ++ line :: after) w ↔ GoesOnWith ls w := by
  induction ls with
  | nil => simp [goesOnWith_cons_iff, hline, not_goesOnWith_nil]
  | cons l ls ih => rw [List.cons_append, goesOnWith_cons_iff, goesOnWith_cons_iff, ih]

/-- Behind a line that ends a list nothing is listed up to the next marker. -/
theorem listsError_append_iff (hmarker : ¬ IsMarkerLine line) (hline : ¬ IsListLine line)
    {after : List (List Char)} (hafter : ∀ l ∈ after, ¬ IsMarkerLine l) :
    ListsError (ls ++ line :: after) w ↔ ListsError ls w := by
  have hnone {l r : List Char} (hl : ¬ IsMarkerLine l) : ¬ IsMarked l r :=
    fun h => hl (isMarkerLine_of_isMarked h)
  induction ls with
  | nil =>
    have hrest : ¬ ListsError after w := by
      induction after with
      | nil => exact not_listsError_nil
      | cons l after ih =>
        rw [List.forall_mem_cons] at hafter
        simp [listsError_cons_iff, hafter.1, hnone hafter.1, ih hafter.2]
    simp [listsError_cons_iff, hmarker, hnone hmarker, hrest, not_listsError_nil]
  | cons l ls ih =>
    rw [List.cons_append, listsError_cons_iff, listsError_cons_iff, goesOnWith_append_iff hline]
    exact or_congr_right (or_congr_right ih)

/-! ## Blocks -/

/-- The docs of a method are what stands below the line that closes its argument list. -/
theorem errors_of_method? {front body tail docs : List Char} {m : Method} (hf : '(' ∉ front)
    (hb : ')' ∉ body) (ht : '\n' ∉ tail)
    (h : method? (front ++ '(' :: (body ++ ')' :: (tail ++ '\n' :: docs))) = some m) :
    m.errors = declaredErrors docs := by
  by_cases hfeed : '\n' ∈ front
  · rw [method?_eq, signatureParts?_eq_none hf hfeed] at h
    cases h
  · have hfront : ∀ c ∈ front, c ≠ '(' ∧ c ≠ '\n' := fun c hc =>
      ⟨fun e => hf (e ▸ hc), fun e => hfeed (e ▸ hc)⟩
    rw [method?_eq, signatureParts?_append hfront hb, cutLine_append_cons ht] at h
    obtain ⟨p, hp, hm⟩ := Option.bind_eq_some_iff.1 h
    split at hp
    next =>
      obtain rfl := Option.some.inj hp
      obtain ⟨head, -, rfl⟩ := Option.map_eq_some_iff.1 hm
      rfl
    next => cases hp

/-- **Declared errors.** A paragraph declares the error names behind the first marker of each of its
lines, and those of the lines of nothing but error names from which an unbroken run of such lines
leads up to a line with a marker; and no others. So behind a line that is of neither kind, a blank
one or prose, nothing is declared up to the next marker. The errors of a method or signal are those
that the text below its signature declares. -/
theorem declaredErrors_exact (docs : List Char) :
    (∀ name : String, name ∈ declaredErrors docs ↔ ListsError (lines docs) name.toList) ∧
    (∀ before broken after, lines docs = before ++ broken :: after → ¬ IsMarkerLine broken →
      ¬ IsListLine broken → (∀ line ∈ after, ¬ IsMarkerLine line) →
      ∀ name : String, name ∈ declaredErrors docs ↔ ListsError before name.toList) ∧
    ∀ front body tail, '(' ∉ front → ')' ∉ body → '\n' ∉ tail →
      let text := front ++ '(' :: (body ++ ')' :: (tail ++ '\n' :: docs))
      (∀ m, method? text = some m → m.errors = declaredErrors docs) ∧
        ∀ s, signal? text = some s → s.errors = declaredErrors docs := by
  have hexact (name : String) :
      name ∈ declaredErrors docs ↔ ListsError (lines docs) name.toList := by
    rw [declaredErrors, NameSet.mem_ofList, List.mem_map]
    simp only [mem_errorsOfLines_iff, Bool.false_eq_true, false_and, or_false]
    constructor
    · rintro ⟨w, hw, rfl⟩
      rwa [String.toList_ofList]
    · exact fun h => ⟨_, h, String.ofList_toList⟩
  refine ⟨hexact, fun before broken after hcut hmarker hlist hafter name => ?_,
    fun front body tail hf hb ht => ⟨fun m h => errors_of_method? hf hb ht h, fun s h => ?_⟩⟩
  · rw [hexact, hcut, listsError_append_iff hmarker hlist hafter]
  · obtain ⟨m, hm, rfl⟩ := Option.map_eq_some_iff.1 h
    exact errors_of_method? hf hb ht hm

/-- A line with a marker and one that goes on with its list. -/
def connectErrors : List (List Char) :=
  ["POSSIBLE  errors : org.a.NotReady, none".toList, "  org.a.Failed,org.a.InProgress".toList]

/-- The list with a blank line and a name under it. -/
def connectDocs : List Char := unlines (connectErrors ++ [[], "org.a.Hidden".toList])

theorem declaredErrors_exact_connect :
    lines connectDocs = connectErrors ++ [] :: ["org.a.Hidden".toList] ∧
      ¬ IsMarkerLine [] ∧ ¬ IsListLine [] ∧
      (∀ line ∈ ["org.a.Hidden".toList], ¬ IsMarkerLine line) ∧
      ListsError (lines connectDocs) "org.a.InProgress".toList ∧
      ¬ ListsError connectErrors "org.a.Hidden".toList ∧
      ∃ m, method? ("void Connect".toList ++ '(' :: ([] ++ ')' :: ([] ++ '\n' :: connectDocs))) =
          some m ∧ m.errors = declaredErrors connectDocs := by
  have hlines : lines connectDocs = connectErrors ++ [] :: ["org.a.Hidden".toList] := by decide
  have hblank : ¬ IsMarkerLine [] := markerRest?_eq_none_iff.1 rfl
  have hbroken : ¬ IsListLine [] := fun h => by
    simpa [listWords, words] using (isListLine_iff.1 h).2
  have hafter : ∀ line ∈ ["org.a.Hidden".toList], ¬ IsMarkerLine line := by
    rw [List.forall_mem_singleton]
    exact markerRest?_eq_none_iff.1 (by decide)
  obtain ⟨hexact, hended, hblocks⟩ := declaredErrors_exact connectDocs
  have hlisted : "org.a.InProgress" ∈ (declaredErrors connectDocs).names := by decide +kernel
  have hhidden : "org.a.Hidden" ∉ (declaredErrors connectDocs).names := by decide +kernel
  obtain ⟨m, hm⟩ : ∃ m, method? ("void Connect".toList ++
      '(' :: ([] ++ ')' :: ([] ++ '\n' :: connectDocs))) = some m := ⟨_, rfl⟩
  refine ⟨hlines, hblank, hbroken, hafter, (hexact _).1 hlisted, ?_, m, hm, ?_⟩
  · exact fun h => hhidden ((hended _ _ _ hlines hblank hbroken hafter _).2 h)
  · exact (hblocks _ [] [] (by decide) (by decide) (by decide)).1 m hm

end BusDoc.Doc
