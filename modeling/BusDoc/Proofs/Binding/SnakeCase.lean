import BusDoc.Binding.Naming
import BusDoc.Proofs.Text.Join
import BusDoc.Proofs.Text.Letter
import BusDoc.Proofs.Text.Trim

/-!
# The canonical form of names in snake case

A name in snake case is words of small letters and digits with single underscores between them. The
names that the generator makes out of an ASCII name keep its letters and digits in their order and
nothing else about it.

* `SnakeRest`: what may stand behind the beginning of such a name; `snakeRest_snakeFrom` is the
  invariant of the loop.
* `SnakeRest.isSnakeCase`, `SnakeRest.snakeFrom_eq`: such a text is joined words, and writing it in
  snake case changes nothing.
* `filter_snakeFrom`: what is written between the underscores.
* `snakeCase_canonical`: the form, the letters, and names that become the same.
-/

namespace BusDoc.Binding

open Text

/-- A small letter or a digit of ASCII. -/
def isSmallAlnum (c : Char) : Bool := isAsciiLower c || isAsciiDigit c

/-- Words of small letters and digits, joined by single underscores. -/
def IsSnakeCase (s : List Char) : Prop :=
  ∃ ws : List (List Char),
    (∀ w ∈ ws, w ≠ [] ∧ ∀ c ∈ w, isSmallAlnum c = true) ∧ s = join ['_'] ws

/-- The letters and digits of a name, in small letters. Names with the same ones agree up to case
and punctuation. -/
def lettersOf (s : List Char) : List Char := (s.filter isAsciiAlnum).map asciiLower

/-! ## Characters -/

variable {b : Bool} {c : Char} {s t : List Char} {previous written : Option Char}

theorem isAsciiAlnum_of_isSmallAlnum (h : isSmallAlnum c = true) : isAsciiAlnum c = true := by
  simp only [isSmallAlnum, isAsciiAlnum, isAsciiAlpha, Bool.or_eq_true] at h ⊢
  exact h.imp .inr id

theorem isAscii_of_isSmallAlnum (h : isSmallAlnum c = true) : isAscii c = true :=
  isAscii_of_isAsciiAlnum (isAsciiAlnum_of_isSmallAlnum h)

theorem isSmallAlnum_of_not_isAsciiUpper (h : isAsciiAlnum c = true)
    (hc : isAsciiUpper c = false) : isSmallAlnum c = true := by
  simpa [isSmallAlnum, isAsciiAlnum, isAsciiAlpha, hc] using h

theorem ne_underscore_of_isAsciiAlnum (h : isAsciiAlnum c = true) : c ≠ '_' := by
  rintro rfl
  cases h

theorem isSmallAlnum_asciiLower (h : isAsciiAlnum c = true) : isSmallAlnum (asciiLower c) = true :=
  forall_isAscii (P := fun c => isAsciiAlnum c = true → isSmallAlnum (asciiLower c) = true)
    (by decide) (isAscii_of_isAsciiAlnum h) h

theorem not_isAsciiUpper_of_isSmallAlnum (h : isSmallAlnum c = true) : isAsciiUpper c = false :=
  forall_isAscii (P := fun c => isSmallAlnum c = true → isAsciiUpper c = false)
    (by decide) (isAscii_of_isSmallAlnum h) h

theorem asciiLower_of_isSmallAlnum (h : isSmallAlnum c = true) : asciiLower c = c :=
  forall_isAscii (P := fun c => isSmallAlnum c = true → asciiLower c = c)
    (by decide) (isAscii_of_isSmallAlnum h) h

/-- The capital of a letter or digit is one, and its small letter is the old one. -/
theorem capital_of_isSmallAlnum (h : isSmallAlnum c = true) :
    isAsciiAlnum (asciiUpper c) = true ∧ asciiLower (asciiUpper c) = c :=
  forall_isAscii (P := fun c => isSmallAlnum c = true →
      isAsciiAlnum (asciiUpper c) = true ∧ asciiLower (asciiUpper c) = c)
    (by decide) (isAscii_of_isSmallAlnum h) h

/-! ## One step -/

/-- A letter or digit is written small, behind an underscore if it begins a word. -/
theorem snakeFrom_cons_of_alnum (hc : isAsciiAlnum c = true) (previous written : Option Char)
    (s : List Char) :
    ∃ gap, (gap = [] ∨ gap = ['_'] ∧ beginsWord previous s = true ∧ written ≠ some '_') ∧
      snakeFrom previous written (c :: s) =
        gap ++ asciiLower c :: snakeFrom (some c) (some (asciiLower c)) s := by
  have hascii := isAscii_of_isAsciiAlnum hc
  rw [snakeFrom, isUpper_ascii hascii, isAlnum_ascii hascii, toLower_ascii hascii]
  cases hupper : isAsciiUpper c with
  | true =>
    by_cases hgap : beginsWord previous s = true ∧ written ≠ some '_'
    · exact ⟨['_'], .inr ⟨rfl, hgap⟩, by simp [hgap]⟩
    · exact ⟨[], .inl rfl, by simp [hgap]⟩
  | false =>
    have hsmall := isSmallAlnum_of_not_isAsciiUpper hc hupper
    exact ⟨[], .inl rfl, by simp [hc, asciiLower_of_isSmallAlnum hsmall]⟩

/-- Any other character is an underscore behind a word and nothing elsewhere. -/
theorem snakeFrom_cons_of_mark (hascii : isAscii c = true) (hc : isAsciiAlnum c = false)
    (s : List Char) :
    snakeFrom previous written (c :: s) =
      if written.isSome && written != some '_' then '_' :: snakeFrom (some c) (some '_') s
      else snakeFrom (some c) written s := by
  have hupper : isAsciiUpper c = false := by
    simp only [isAsciiAlnum, isAsciiAlpha, Bool.or_eq_false_iff] at hc
    exact hc.1.1
  rw [snakeFrom, isUpper_ascii hascii, isAlnum_ascii hascii, hupper, hc]
  rfl

/-! ## The letters -/

/-- Between the underscores stand the letters and digits of the name. -/
theorem filter_snakeFrom (hs : ∀ c ∈ s, isAscii c = true) (previous written : Option Char) :
    (snakeFrom previous written s).filter (· ≠ '_') = lettersOf s := by
  induction s generalizing previous written with
  | nil => rfl
  | cons c s ih =>
    obtain ⟨hascii, hs⟩ := List.forall_mem_cons.1 hs
    cases hc : isAsciiAlnum c with
    | true =>
      obtain ⟨gap, hgap, h⟩ := snakeFrom_cons_of_alnum hc previous written s
      have hnone : gap.filter (· ≠ '_') = [] := by
        obtain rfl | ⟨rfl, -⟩ := hgap <;> rfl
      have hkept := ne_underscore_of_isAsciiAlnum (isAsciiAlnum_asciiLower hc)
      rw [h, List.filter_append, hnone, List.nil_append, List.filter_cons_of_pos (by simpa),
        ih hs _ _]
      simp [lettersOf, hc]
    | false =>
      have hskip : lettersOf (c :: s) = lettersOf s := by simp [lettersOf, hc]
      rw [snakeFrom_cons_of_mark hascii hc, hskip]
      split
      next => rw [List.filter_cons_of_neg (by simp), ih hs _ _]
      next => exact ih hs _ _

theorem filter_snakeCase (hs : ∀ c ∈ s, isAscii c = true) :
    (snakeCase s).filter (· ≠ '_') = lettersOf s := by
  obtain ⟨t, hcut, ht⟩ := exists_eq_dropEndWhile_append (· == '_') (snakeFrom none none s)
  have hnone : t.filter (· ≠ '_') = [] := by
    rw [List.filter_eq_nil_iff]
    intro c hc
    simpa using List.all_eq_true.1 ht c hc
  rw [← filter_snakeFrom hs none none, hcut, List.filter_append, hnone,
    List.append_nil]
  rfl

/-! ## The form -/

/-- What may stand behind the beginning of a name in snake case; `inWord` tells whether that ends
in a word, so that an underscore may come next. -/
inductive SnakeRest : (inWord : Bool) → List Char → Prop
  | nil {b : Bool} : SnakeRest b []
  | letter {b : Bool} {c : Char} {s : List Char} :
      isSmallAlnum c = true → SnakeRest true s → SnakeRest b (c :: s)
  | underscore {s : List Char} : SnakeRest false s → SnakeRest true ('_' :: s)

theorem getLast?_ne_of_cons (h : (c :: s).getLast? ≠ some '_') : s.getLast? ≠ some '_' := by
  intro hlast
  rw [List.getLast?_cons, hlast] at h
  exact h rfl

namespace SnakeRest

theorem of_append (h : SnakeRest b (s ++ t)) : SnakeRest b s := by
  induction s generalizing b with
  | nil => exact .nil
  | cons c s ih =>
    cases h with
    | letter hc h => exact .letter hc (ih h)
    | underscore h => exact .underscore (ih h)

/-- Behind the characters `w` of a word, what goes on up to a last character that is no underscore
makes joined words. -/
theorem exists_words (h : SnakeRest b s) (hlast : s.getLast? ≠ some '_') {w : List Char}
    (hw : ∀ c ∈ w, isSmallAlnum c = true) (hb : b = true ↔ w ≠ []) :
    ∃ ws : List (List Char), (∀ w ∈ ws, w ≠ [] ∧ ∀ c ∈ w, isSmallAlnum c = true) ∧
      w ++ s = join ['_'] ws ∧ (ws = [] → w ++ s = []) := by
  induction h generalizing w with
  | nil =>
    by_cases hnil : w = []
    · exact ⟨[], by simp, by simp [hnil, join], by simp [hnil]⟩
    · exact ⟨[w], by simpa [hnil] using hw, by simp [join], by simp⟩
  | @letter _ c s hc _ ih =>
    have hw' : ∀ d ∈ w ++ [c], isSmallAlnum d = true := by
      simpa [or_imp, forall_and, hc] using hw
    obtain ⟨ws, hws, hjoin, hne⟩ := ih (getLast?_ne_of_cons hlast) hw' (by simp)
    rw [List.append_assoc, List.singleton_append] at hjoin hne
    exact ⟨ws, hws, hjoin, hne⟩
  | @underscore s h ih =>
    -- the word ends, and what follows the underscore is not empty
    have hs : s ≠ [] := by
      rintro rfl
      exact hlast rfl
    obtain ⟨ws, hws, hjoin, hne⟩ := ih (getLast?_ne_of_cons hlast) (w := []) (by simp) (by simp)
    have hwsne : ws ≠ [] := fun he => hs (hne he)
    refine ⟨w :: ws, ?_, ?_, by simp⟩
    · exact List.forall_mem_cons.2 ⟨⟨hb.1 rfl, hw⟩, hws⟩
    · rw [join_cons_of_ne_nil _ _ hwsne, ← hjoin]
      simp

theorem isSnakeCase (h : SnakeRest false s) (hlast : s.getLast? ≠ some '_') : IsSnakeCase s := by
  obtain ⟨ws, hws, hjoin, -⟩ := h.exists_words hlast (w := []) nofun (by simp)
  exact ⟨ws, hws, hjoin⟩

/-- Writing it in snake case changes nothing. -/
theorem snakeFrom_eq (h : SnakeRest b s) (hb : b = true → written.isSome ∧ written ≠ some '_') :
    snakeFrom previous written s = s := by
  induction h generalizing previous written with
  | nil => rfl
  | @letter _ c s hc _ ih =>
    have halnum := isAsciiAlnum_of_isSmallAlnum hc
    have hne := ne_underscore_of_isAsciiAlnum halnum
    have hupper : isUpper c = false := by
      rw [isUpper_ascii (isAscii_of_isSmallAlnum hc)]
      exact not_isAsciiUpper_of_isSmallAlnum hc
    rw [snakeFrom, hupper, isAlnum_ascii (isAscii_of_isSmallAlnum hc), halnum]
    simp [ih, hne]
  | @underscore s _ ih =>
    obtain ⟨hsome, hne⟩ := hb rfl
    rw [snakeFrom_cons_of_mark (by decide) (by decide), if_pos (by simp [hsome, hne]), ih nofun]

end SnakeRest

/-- The last character written belongs to a word if the last one read is a letter or digit; else it
is an underscore, or nothing is written yet. -/
def InStep (previous written : Option Char) : Prop :=
  if previous.any isAsciiAlnum then written.any isSmallAlnum = true
  else written = none ∨ written = some '_'

theorem isAsciiAlnum_of_beginsWord (hp : ∀ p, previous = some p → isAscii p = true)
    (h : beginsWord previous s = true) : previous.any isAsciiAlnum = true := by
  cases previous with
  | none => cases h
  | some p =>
    have hascii := hp p rfl
    rw [beginsWord, isLower_ascii hascii, isUpper_ascii hascii] at h
    simp only [Option.any_some, isAsciiAlnum, isAsciiAlpha]
    grind

theorem snakeRest_snakeFrom (hs : ∀ c ∈ s, isAscii c = true)
    (hp : ∀ p, previous = some p → isAscii p = true) (h : InStep previous written) :
    SnakeRest (written.any isSmallAlnum) (snakeFrom previous written s) := by
  induction s generalizing previous written with
  | nil => exact .nil
  | cons c s ih =>
    obtain ⟨hascii, hs⟩ := List.forall_mem_cons.1 hs
    have hread : ∀ p, some c = some p → isAscii p = true := by
      rintro p ⟨⟩
      exact hascii
    cases hc : isAsciiAlnum c with
    | true =>
      have hsmall := isSmallAlnum_asciiLower hc
      have hnext : InStep (some c) (some (asciiLower c)) := by simp [InStep, hc, hsmall]
      have hrest := ih hs hread hnext
      rw [Option.any_some, hsmall] at hrest
      obtain ⟨gap, hgap, heq⟩ := snakeFrom_cons_of_alnum hc previous written s
      rw [heq]
      obtain rfl | ⟨rfl, hbegins, -⟩ := hgap
      · exact .letter hsmall hrest
      · -- a word begins only behind a letter or digit, so the underscore ends a word
        rw [InStep, if_pos (isAsciiAlnum_of_beginsWord hp hbegins)] at h
        rw [h]
        exact .underscore (.letter hsmall hrest)
    | false =>
      rw [snakeFrom_cons_of_mark hascii hc]
      split
      next hopen =>
        have hword : written.any isSmallAlnum = true := by
          unfold InStep at h
          split at h
          next => exact h
          next => obtain rfl | rfl := h <;> cases hopen
        rw [hword]
        have hnext : InStep (some c) (some '_') := by simp [InStep, hc]
        exact .underscore (ih hs hread hnext)
      next hclosed =>
        have hnone : written = none ∨ written = some '_' := by
          cases written with
          | none => exact .inl rfl
          | some d => exact .inr (by simpa using hclosed)
        exact ih hs hread (by simpa [InStep, hc] using hnone)

theorem snakeRest_snakeCase (hs : ∀ c ∈ s, isAscii c = true) : SnakeRest false (snakeCase s) := by
  have hstart : InStep none none := .inl rfl
  have h : SnakeRest false (snakeFrom none none s) := snakeRest_snakeFrom hs (by simp) hstart
  obtain ⟨t, hcut, -⟩ := exists_eq_dropEndWhile_append (· == '_') (snakeFrom none none s)
  rw [hcut] at h
  exact h.of_append

theorem getLast?_snakeCase (s : List Char) : (snakeCase s).getLast? ≠ some '_' := by
  intro h
  have hlast := getLast?_dropEndWhile h
  cases hlast

/-! ## Names of the generator -/

/-- A text that is a name but for its underscores keeps the letters of the name. -/
theorem lettersOf_of_filter (h : s.filter (· ≠ '_') = lettersOf t) : lettersOf s = lettersOf t := by
  have hsmall : ∀ c ∈ lettersOf t, isSmallAlnum c = true := by
    intro c hc
    obtain ⟨d, hd, rfl⟩ := List.mem_map.1 hc
    exact isSmallAlnum_asciiLower (List.mem_filter.1 hd).2
  have hkept : s.filter isAsciiAlnum = lettersOf t := by
    rw [← List.filter_eq_self.2 fun c hc => isAsciiAlnum_of_isSmallAlnum (hsmall c hc), ← h,
      List.filter_filter]
    refine List.filter_congr fun c _ => ?_
    cases hc : isAsciiAlnum c with
    | true => simpa using ne_underscore_of_isAsciiAlnum hc
    | false => rfl
  rw [lettersOf, hkept, List.map_congr_left fun c hc => asciiLower_of_isSmallAlnum (hsmall c hc),
    List.map_id']

theorem lettersOf_snakeCase (hs : ∀ c ∈ s, isAscii c = true) :
    lettersOf (snakeCase s) = lettersOf s := lettersOf_of_filter (filter_snakeCase hs)

theorem lettersOf_fieldIdent (hs : ∀ c ∈ s, isAscii c = true) :
    lettersOf (fieldIdent s) = lettersOf s := by
  refine lettersOf_of_filter ?_
  rw [fieldIdent, unreserve]
  split
  next => rw [List.filter_append, filter_snakeCase hs]; simp
  next => exact filter_snakeCase hs

theorem lettersOf_upperSnakeCase (hs : ∀ c ∈ s, isAscii c = true) :
    lettersOf (upperSnakeCase s) = lettersOf s := by
  rw [← lettersOf_snakeCase hs, upperSnakeCase]
  have h := snakeRest_snakeCase hs
  generalize snakeCase s = name, false = b at h
  induction h with
  | nil => rfl
  | letter hc _ ih =>
    obtain ⟨hupper, hlower⟩ := capital_of_isSmallAlnum hc
    have hletter := isAsciiAlnum_of_isSmallAlnum hc
    simp only [lettersOf] at ih ⊢
    simp [hupper, hlower, hletter, asciiLower_of_isSmallAlnum hc, ih]
  | underscore _ ih =>
    have hmark : asciiUpper '_' = '_' := rfl
    have hskip : isAsciiAlnum '_' = false := rfl
    simpa [lettersOf, hmark, hskip] using ih

/-- **Canonical names.** An ASCII name in snake case is words of small letters and digits joined by
single underscores, its letters and digits are those of the name in small letters and in order, and
it is its own snake case. Names that become the same name, be it that of a type or signal, of a
function, or of a constant, have the same letters and digits up to case. -/
theorem snakeCase_canonical (s : List Char) (hs : ∀ c ∈ s, isAscii c = true) :
    IsSnakeCase (snakeCase s) ∧
      (snakeCase s).filter (· ≠ '_') = lettersOf s ∧
      snakeCase (snakeCase s) = snakeCase s ∧
      ∀ t, (∀ c ∈ t, isAscii c = true) →
        snakeCase s = snakeCase t ∨ fieldIdent s = fieldIdent t ∨
          upperSnakeCase s = upperSnakeCase t →
        lettersOf s = lettersOf t := by
  have hrest := snakeRest_snakeCase hs
  refine ⟨hrest.isSnakeCase (getLast?_snakeCase s), filter_snakeCase hs, ?_, ?_⟩
  · rw [snakeCase, hrest.snakeFrom_eq nofun]
    exact dropEndWhile_idem _ _
  · rintro t ht (h | h | h)
    · rw [← lettersOf_snakeCase hs, h, lettersOf_snakeCase ht]
    · rw [← lettersOf_fieldIdent hs, h, lettersOf_fieldIdent ht]
    · rw [← lettersOf_upperSnakeCase hs, h, lettersOf_upperSnakeCase ht]

/-- Two spellings of one name: a plural behind an acronym, a doubled dash, and a digit. -/
theorem snakeCase_canonical_serviceIds :
    (∀ c ∈ "ServiceUUIDs--Type9".toList, isAscii c = true) ∧
      (∀ c ∈ "_Service-UUIDs-Type9".toList, isAscii c = true) ∧
      snakeCase "ServiceUUIDs--Type9".toList = "service_uuids_type9".toList ∧
      snakeCase "service_uuids_type9".toList = "service_uuids_type9".toList ∧
      lettersOf "ServiceUUIDs--Type9".toList = lettersOf "_Service-UUIDs-Type9".toList := by
  have hs : ∀ c ∈ "ServiceUUIDs--Type9".toList, isAscii c = true :=
    List.all_eq_true.1 (by decide)
  have ht : ∀ c ∈ "_Service-UUIDs-Type9".toList, isAscii c = true :=
    List.all_eq_true.1 (by decide)
  have hname : snakeCase "ServiceUUIDs--Type9".toList = "service_uuids_type9".toList := by decide
  have hother : snakeCase "_Service-UUIDs-Type9".toList = "service_uuids_type9".toList := by decide
  obtain ⟨-, -, hagain, hsame⟩ := snakeCase_canonical _ hs
  rw [hname] at hagain
  exact ⟨hs, ht, hname, hagain, hsame _ ht (.inl (hname.trans hother.symm))⟩

end BusDoc.Binding
