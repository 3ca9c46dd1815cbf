import BusDoc.Proofs.Doc.SignatureLine
import BusDoc.Proofs.Text.Words

/-!
# Argument lists over several lines

The argument list of a signature may be broken wherever a gap stands in it. The lines that it then
has each begin with something of the list: a line that is left empty ends the list.

* `isArgList_cons_of_ne`, `isArgList_feed`: what makes one list, character by character.
* `Wraps.words_eq`: the words of a list do not depend on how it is broken.
* `Wraps.isArgList_eq`: neither does it depend on this whether it is a list, unless a line is
  emptied.
* `entryAs_wrapsList`: so a method or signal is read as before if no line is emptied, and is not
  read otherwise.
-/

namespace BusDoc.Doc

open Text

/-! ## Broken lists -/

/-- The second text is the first with some of its gaps broken. A gap is a run of spaces and tabs,
with no other space or tab in front of it, that a character other than a blank follows. It is
replaced by a line feed and any spaces and tabs. `before` is the character in front of the texts,
and `empties` tells whether one of the gaps is the indentation of a line: this line is left
empty. -/
inductive Wraps : (empties : Bool) → (before : Char) → List Char → List Char → Prop
  | nil {before : Char} : Wraps false before [] []
  | keep {empties : Bool} {before c : Char} {s t : List Char} (h : Wraps empties c s t) :
      Wraps empties before (c :: s) (c :: t)
  | wrap {empties : Bool} {before c : Char} {gap indent s t : List Char}
      (hbefore : isIndent before = false) (hne : gap ≠ []) (hgap : gap.all isIndent = true)
      (hindent : indent.all isIndent = true) (hc : isBlank c = false) (h : Wraps empties c s t) :
      Wraps (before == '\n' || empties) before (gap ++ c :: s) ('\n' :: (indent ++ c :: t))

/-- The second text is the first with gaps of its argument list broken. The list stands between the
first opening parenthesis and the first closing one behind it. -/
def WrapsList (empties : Bool) (text text' : List Char) : Prop :=
  ∃ front body body' behind, text = front ++ '(' :: (body ++ ')' :: behind) ∧
    text' = front ++ '(' :: (body' ++ ')' :: behind) ∧ '(' ∉ front ∧ ')' ∉ body ∧
    Wraps empties '(' body body'

/-! ## Lists, character by character -/

variable {s t : List Char} {c : Char}

theorem notMem_of_all_isIndent (h : s.all isIndent = true) : '\n' ∉ s := fun hmem =>
  absurd (List.all_eq_true.1 h _ hmem) (by decide)

theorem ne_feed_of_not_isBlank (h : isBlank c = false) : c ≠ '\n' := by
  rintro rfl
  cases h

theorem continuesList_cons (c : Char) (s : List Char) :
    continuesList (c :: s) = if isIndent c then continuesList s else !isBlank c := by
  cases hc : isIndent c <;> simp [continuesList, hc]

theorem continuesList_append (hs : s.all isIndent = true) (t : List Char) :
    continuesList (s ++ t) = continuesList t := by
  rw [continuesList, List.dropWhile_append_of_pos (List.all_eq_true.1 hs)]
  rfl

/-- Only the first line of a text tells whether it goes on with a list. -/
theorem continuesList_of_splitOn {line : List Char} {rest : List (List Char)}
    (h : splitOn '\n' s = line :: rest) : continuesList line = continuesList s := by
  induction s generalizing line rest with
  | nil => cases h; rfl
  | cons c s ih =>
    rw [splitOn] at h
    split at h
    next hfeed => cases h; subst hfeed; rfl
    next =>
      cases hs : splitOn '\n' s with
      | nil => exact absurd hs (splitOn_ne_nil _ s)
      | cons first more =>
        rw [hs] at h
        cases h
        rw [continuesList_cons, continuesList_cons, ih hs]

theorem all_allBlank_splitOn (s : List Char) : (splitOn '\n' s).all allBlank = allBlank s := by
  induction s with
  | nil => rfl
  | cons c s ih =>
    rw [splitOn]
    split
    next hfeed => subst hfeed; exact ih
    next =>
      cases hs : splitOn '\n' s with
      | nil => exact absurd hs (splitOn_ne_nil _ s)
      | cons first more =>
        rw [hs] at ih
        simpa [allBlank, Bool.and_assoc] using congrArg (isBlank c && ·) ih

theorem isArgList_cons_of_ne (hc : c ≠ '\n') (s : List Char) :
    isArgList (c :: s) = isArgList s := by
  rw [isArgList, isArgList, splitOn, if_neg hc]
  cases hs : splitOn '\n' s with
  | nil => exact absurd hs (splitOn_ne_nil _ s)
  | cons first more => rfl

theorem isArgList_append (hs : '\n' ∉ s) (t : List Char) : isArgList (s ++ t) = isArgList t := by
  induction s with
  | nil => rfl
  | cons c s ih =>
    rw [List.mem_cons, not_or] at hs
    rw [List.cons_append, isArgList_cons_of_ne (Ne.symm hs.1), ih hs.2]

/-- Behind a line feed the list goes on, or nothing but blanks follows. -/
theorem isArgList_feed (s : List Char) :
    isArgList ('\n' :: s) = if continuesList s then isArgList s else allBlank s := by
  cases hs : splitOn '\n' s with
  | nil => exact absurd hs (splitOn_ne_nil _ s)
  | cons line rest =>
    have hall := all_allBlank_splitOn s
    rw [isArgList, splitOn, if_pos rfl, ← continuesList_of_splitOn hs, isArgList, hs]
    cases hline : continuesList line with
    | true => simp [hline]
    | false =>
      rw [hs] at hall
      simp [hline, ← hall]

theorem isArgList_of_allBlank (h : allBlank s = true) : isArgList s = true := by
  rw [← all_allBlank_splitOn, List.all_eq_true] at h
  rw [isArgList, List.all_eq_true]
  exact fun line hline =>
    h line ((List.drop_sublist _ _).subset ((List.dropWhile_sublist _).subset hline))

theorem isArgList_wrapped {indent : List Char} (hindent : indent.all isIndent = true)
    (hc : isBlank c = false) (t : List Char) :
    isArgList ('\n' :: (indent ++ c :: t)) = isArgList t := by
  have hgoes : continuesList (indent ++ c :: t) = true := by
    rw [continuesList_append hindent, continuesList_cons, isIndent_of_not_isBlank hc, hc]
    rfl
  rw [isArgList_feed, if_pos hgoes, isArgList_append (notMem_of_all_isIndent hindent),
    isArgList_cons_of_ne (ne_feed_of_not_isBlank hc)]

/-! ## What breaking a list leaves as it is -/

namespace Wraps

variable {empties : Bool} {before : Char}

theorem refl (before : Char) (s : List Char) : Wraps false before s s := by
  induction s generalizing before with
  | nil => exact .nil
  | cons c s ih => exact .keep (ih c)

/-- Text in front of a list that is broken, up to the character that counts for it. -/
theorem append (word : List Char) (h : Wraps empties (word.getLastD before) s t) :
    Wraps empties before (word ++ s) (word ++ t) := by
  induction word generalizing before with
  | nil => exact h
  | cons c word ih =>
    rw [List.getLastD_cons] at h
    exact .keep (ih h)

theorem mem (h : Wraps empties before s t) {a : Char} (ha : a ∈ t) : isBlank a = true ∨ a ∈ s := by
  induction h with
  | nil => exact .inr ha
  | keep _ ih =>
    rcases List.mem_cons.1 ha with rfl | ha
    · exact .inr List.mem_cons_self
    · exact (ih ha).imp id (List.mem_cons_of_mem _)
  | wrap _ _ _ hindent _ _ ih =>
    rw [List.mem_cons, List.mem_append, List.mem_cons] at ha
    obtain rfl | ha | rfl | ha := ha
    · exact .inl rfl
    · exact .inl (isBlank_of_isIndent (List.all_eq_true.1 hindent a ha))
    · exact .inr (by simp)
    · exact (ih ha).imp id fun hmem => by simp [hmem]

theorem words_eq (h : Wraps empties before s t) :
    words isBlank t = words isBlank s ∧ t.head?.all isBlank = s.head?.all isBlank := by
  have hskip {gap : List Char} (hgap : gap.all isIndent = true) (u : List Char) :
      words isBlank (gap ++ u) = words isBlank u := by
    induction gap with
    | nil => rfl
    | cons d gap ih =>
      rw [List.all_cons, Bool.and_eq_true] at hgap
      rw [List.cons_append, words_cons_of_pos (isBlank_of_isIndent hgap.1), ih hgap.2]
  induction h with
  | nil => exact ⟨rfl, rfl⟩
  | keep _ ih => exact ⟨words_cons_congr ih.1 ih.2, rfl⟩
  | @wrap _ _ c gap indent s t _ hne hgap hindent _ _ ih =>
    obtain ⟨d, gap, rfl⟩ := List.exists_cons_of_ne_nil hne
    have hd : isIndent d = true := List.all_eq_true.1 hgap d List.mem_cons_self
    refine ⟨?_, by simp [isBlank_of_isIndent hd, show isBlank '\n' = true from rfl]⟩
    rw [words_cons_of_pos rfl, hskip hindent, hskip hgap, words_cons_congr ih.1 ih.2]

theorem allBlank_eq (h : Wraps empties before s t) : allBlank t = allBlank s := by
  induction h with
  | nil => rfl
  | keep _ ih => simp only [allBlank, List.all_cons] at ih ⊢; rw [ih]
  | wrap _ _ _ _ hc _ _ => simp [allBlank, hc]

/-- Inside an indentation no gap begins, and one that is the indentation of a line empties it. -/
theorem continuesList_eq (h : Wraps empties before s t)
    (hinside : isIndent before = true ∨ before = '\n' ∧ empties = false) :
    continuesList t = continuesList s := by
  induction h with
  | nil => rfl
  | @keep _ _ c s t _ ih =>
    rw [continuesList_cons, continuesList_cons]
    cases hc : isIndent c with
    | true => exact ih (.inl hc)
    | false => rfl
  | wrap hbefore =>
    obtain hinside | ⟨rfl, hnone⟩ := hinside
    · rw [hbefore] at hinside
      cases hinside
    · cases hnone

theorem isArgList_of_not_empties (h : Wraps empties before s t) (hnone : empties = false) :
    isArgList t = isArgList s := by
  induction h with
  | nil => rfl
  | @keep _ _ c s t h ih =>
    by_cases hc : c = '\n'
    · subst hc
      rw [isArgList_feed, isArgList_feed, h.continuesList_eq (.inr ⟨rfl, hnone⟩), h.allBlank_eq,
        ih hnone]
    · rw [isArgList_cons_of_ne hc, isArgList_cons_of_ne hc, ih hnone]
  | @wrap _ _ c gap indent s t _ _ hgap hindent hc _ ih =>
    rw [isArgList_wrapped hindent hc, isArgList_append (notMem_of_all_isIndent hgap),
      isArgList_cons_of_ne (ne_feed_of_not_isBlank hc), ih (Bool.or_eq_false_iff.1 hnone).2]

/-- A line that is left empty ends the list, and something of the list follows it. If it is the line
that the texts stand in, only what stands in front of them shows this. -/
theorem isArgList_of_empties (h : Wraps empties before s t) (hsome : empties = true) :
    (before = '\n' ∧ ∃ rest, t = '\n' :: rest ∧ allBlank rest = false) ∨
      isArgList t = false := by
  induction h with
  | nil => cases hsome
  | @keep _ _ c s t h ih =>
    right
    obtain ⟨rfl, rest, rfl, hrest⟩ | hno := ih hsome
    · have hstops : continuesList ('\n' :: rest) = false := rfl
      rw [isArgList_feed, hstops]
      exact hrest
    · by_cases hc : c = '\n'
      · have hblank : allBlank t = false := by
          rw [Bool.eq_false_iff]
          intro hall
          rw [isArgList_of_allBlank hall] at hno
          cases hno
        rw [hc, isArgList_feed, hno, hblank, ite_self]
      · rw [isArgList_cons_of_ne hc, hno]
  | @wrap _ before c gap indent s t _ _ _ hindent hc _ ih =>
    by_cases hbefore : before = '\n'
    · exact .inl ⟨hbefore, _, rfl, by simp [allBlank, hc]⟩
    · right
      rw [isArgList_wrapped hindent hc]
      obtain ⟨hfeed, -⟩ | hno := ih (by simpa [hbefore] using hsome)
      · exact absurd hfeed (ne_feed_of_not_isBlank hc)
      · exact hno

/-- A list is one still if no line of it is emptied, and only then. -/
theorem isArgList_eq (h : Wraps empties before s t) (hbefore : before ≠ '\n') :
    isArgList t = (!empties && isArgList s) := by
  cases empties with
  | false => exact h.isArgList_of_not_empties rfl
  | true =>
    obtain ⟨hfeed, -⟩ | hno := h.isArgList_of_empties rfl
    · exact absurd hfeed hbefore
    · exact hno

end Wraps

/-! ## Blocks with a broken list -/

theorem method?_wrapsList {empties : Bool} {text text' : List Char} {m : Method}
    (h : method? text = some m) (hwraps : WrapsList empties text text') :
    method? text' = if empties then none else some m := by
  obtain ⟨front, body, body', behind, rfl, rfl, hopen, hclose, hbody⟩ := hwraps
  have hclose' : ')' ∉ body' := fun hmem => (hbody.mem hmem).elim (by decide) hclose
  have hfront : ∀ c ∈ front, c ≠ '(' ∧ c ≠ '\n' := by
    refine fun c hc => ⟨fun e => hopen (e ▸ hc), fun e => ?_⟩
    rw [method?_eq, signatureParts?_eq_none hopen (e ▸ hc)] at h
    cases h
  rw [method?_eq, signatureParts?_append hfront hclose] at h
  rw [method?_eq, signatureParts?_append hfront hclose', hbody.isArgList_eq (by decide)]
  split at h
  next hlist =>
    cases empties with
    | true => rfl
    | false =>
      rw [hlist]
      have hargs : argParts body' = argParts body := by rw [argParts, hbody.words_eq.1, argParts]
      simpa [SignatureParts.method?, SignatureParts.head?, hargs] using h
  next => cases h

/-- **Breaking an argument list does not change a signature**, as long as no line is left empty.
Take a block that documents a method or signal, and break gaps of its argument list. If none of
them is the indentation of a line, the block documents the same method or signal. If one of them
is, the block does not document anything. -/
theorem entryAs_wrapsList {b b' : Block} {form : BlockKind} {e : Entry} (hform : form ≠ .property)
    (h : b.entryAs form = .ok e) :
    (WrapsList false b.text b'.text → b'.entryAs form = .ok e) ∧
      (WrapsList true b.text b'.text → b'.entryAs form = .error b'.noMatch) := by
  obtain ⟨entry, hentry⟩ := exists_entryOf?_eq hform
  rw [Block.entryAs, hentry] at h ⊢
  cases hm : method? b.text with
  | none => rw [hm] at h; cases h
  | some m =>
    rw [hm] at h
    exact ⟨fun hwraps => by rw [method?_wrapsList hm hwraps]; exact h,
      fun hwraps => by rw [method?_wrapsList hm hwraps]; rfl⟩

/-! ## A method with two arguments -/

/-- A method whose argument list goes on below its first line. -/
def attachBlock : Block where
  kind := .method
  text := "void Attach(fd,\n  object device)\n\nPossible errors: a.Busy".toList

/-- The method that the block documents. -/
def attachMethod : Method where
  name := "Attach"
  args := [⟨"fd", "arg0"⟩, ⟨"object", "device"⟩]
  docs := "Possible errors: a.Busy"
  errors := NameSet.ofList ["a.Busy"]

/-- The block with its last argument broken. -/
def brokenAttach : Block where
  kind := .method
  text := "void Attach(fd,\n  object\n\tdevice)\n\nPossible errors: a.Busy".toList

/-- The block with an empty line in its list, made of the indentation of the second line. -/
def emptiedAttach : Block where
  kind := .method
  text := "void Attach(fd,\n\n\tobject device)\n\nPossible errors: a.Busy".toList

theorem wrapsList_brokenAttach : WrapsList false attachBlock.text brokenAttach.text := by
  have hgap : Wraps ('t' == '\n' || false) 't' ([' '] ++ 'd' :: "evice".toList)
      ('\n' :: (['\t'] ++ 'd' :: "evice".toList)) :=
    .wrap rfl (by simp) rfl rfl rfl (.refl _ _)
  exact ⟨"void Attach".toList, _, _, "\n\nPossible errors: a.Busy".toList, by decide, by decide,
    by decide, by decide, .append "fd,\n  object".toList hgap⟩

theorem wrapsList_emptiedAttach : WrapsList true attachBlock.text emptiedAttach.text := by
  have hgap : Wraps ('\n' == '\n' || false) '\n' ([' ', ' '] ++ 'o' :: "bject device".toList)
      ('\n' :: (['\t'] ++ 'o' :: "bject device".toList)) :=
    .wrap rfl (by simp) rfl rfl rfl (.refl _ _)
  exact ⟨"void Attach".toList, _, _, "\n\nPossible errors: a.Busy".toList, by decide, by decide,
    by decide, by decide, .append "fd,\n".toList hgap⟩

theorem entryAs_wrapsList_attach :
    attachBlock.entryAs .method = .ok (.method attachMethod) ∧
      WrapsList false attachBlock.text brokenAttach.text ∧
      WrapsList true attachBlock.text emptiedAttach.text ∧
      brokenAttach.entryAs .method = .ok (.method attachMethod) ∧
      emptiedAttach.entryAs .method = .error emptiedAttach.noMatch := by
  have hread : attachBlock.entryAs .method = .ok (.method attachMethod) := rfl
  exact ⟨hread, wrapsList_brokenAttach, wrapsList_emptiedAttach,
    (entryAs_wrapsList (by decide) hread).1 wrapsList_brokenAttach,
    (entryAs_wrapsList (by decide) hread).2 wrapsList_emptiedAttach⟩

/-- A method that is not read any more when a gap of its argument list is broken. -/
theorem unread_emptiedAttach :
    ¬ ∀ (b b' : Block) (e : Entry) (empties : Bool), b.entryAs .method = .ok e →
      WrapsList empties b.text b'.text → b'.entryAs .method = .ok e := by
  intro hall
  have hread : attachBlock.entryAs .method = .ok (.method attachMethod) := rfl
  have hlost : emptiedAttach.entryAs .method = .error emptiedAttach.noMatch := rfl
  have hkept := hall attachBlock emptiedAttach _ true hread wrapsList_emptiedAttach
  rw [hlost] at hkept
  cases hkept

end BusDoc.Doc
