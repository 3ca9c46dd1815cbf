import BusDoc.Text.Blank

/-!
# Trimming a text made of parts

* `dropEndWhile_append_of_all`, `dropEndWhile_append_of_ne_nil`: what is cut at the end of a text
  is cut at the end of its last part, unless nothing of that part is left.
* `takeWhile_dropEndWhile`: the first word of a text stays when it is cut at its end.
* `trimEnd_append`, `trimEnd_of_append`: a text whose last part is trimmed is its own right trim,
  and the last part of one that is its own right trim is trimmed.
* `trim_eq_self`, `isBlank_head`, `trimEnd_of_trim`: a text is its own trim when it starts with no
  blank and is its own right trim, and only then.
* `trim_of_ends`: a text is its own trim when it starts and ends with no blank.
* `trim_trim`, `trim_padded`: trimming twice is trimming once, and blanks around a text are cut.
-/

namespace BusDoc.Text

variable {p : Char → Bool} {s t : List Char}

theorem isIndent_of_not_isBlank {c : Char} (h : isBlank c = false) : isIndent c = false := by
  cases hi : isIndent c with
  | false => rfl
  | true =>
    rw [isBlank_of_isIndent hi] at h
    cases h

theorem dropEndWhile_append_of_all (ht : t.all p = true) :
    dropEndWhile p (s ++ t) = dropEndWhile p s := by
  unfold dropEndWhile
  rw [List.reverse_append, List.dropWhile_append_of_pos]
  intro c hc
  exact List.all_eq_true.1 ht c (List.mem_reverse.1 hc)

theorem dropEndWhile_append_of_ne_nil (ht : dropEndWhile p t ≠ []) :
    dropEndWhile p (s ++ t) = s ++ dropEndWhile p t := by
  unfold dropEndWhile at ht ⊢
  have hne : (t.reverse.dropWhile p).isEmpty = false := by
    simpa [List.isEmpty_iff] using ht
  rw [List.reverse_append, List.dropWhile_append, hne]
  simp

theorem dropEndWhile_eq_nil_of_all (hs : s.all p = true) : dropEndWhile p s = [] := by
  have h := dropEndWhile_append_of_all (s := []) hs
  simpa [dropEndWhile_nil] using h

/-- Nothing is cut from a text whose last character stays. -/
theorem dropEndWhile_eq_self {c : Char} (hc : s.getLast? = some c) (hp : p c = false) :
    dropEndWhile p s = s := by
  obtain ⟨u, rfl⟩ := List.getLast?_eq_some_iff.1 hc
  simp [dropEndWhile_append_singleton, hp]

theorem dropEndWhile_cons_of_not {c : Char} (hc : p c = false) (s : List Char) :
    dropEndWhile p (c :: s) = c :: dropEndWhile p s := by
  unfold dropEndWhile
  rw [List.reverse_cons, List.dropWhile_append]
  split
  next h => simp [hc, List.isEmpty_iff.1 h]
  next => simp

theorem getLast?_dropEndWhile {c : Char} (h : (dropEndWhile p s).getLast? = some c) :
    p c = false := by
  unfold dropEndWhile at h
  rw [List.getLast?_reverse] at h
  have := List.head?_dropWhile_not p s.reverse
  rw [h] at this
  simpa using this

theorem exists_eq_dropEndWhile_append (p : Char → Bool) (s : List Char) :
    ∃ t, s = dropEndWhile p s ++ t ∧ t.all p = true := by
  refine ⟨(s.reverse.takeWhile p).reverse, ?_, ?_⟩
  · rw [dropEndWhile, ← List.reverse_append, List.takeWhile_append_dropWhile, List.reverse_reverse]
  · rw [List.all_reverse]
    exact List.all_takeWhile

theorem takeWhile_dropEndWhile {p q : Char → Bool} (h : ∀ c, p c = true → q c = false)
    (s : List Char) : (dropEndWhile p s).takeWhile q = s.takeWhile q := by
  induction s with
  | nil => rfl
  | cons c s ih =>
    cases hc : p c with
    | false =>
      rw [dropEndWhile_cons_of_not hc, List.takeWhile_cons, List.takeWhile_cons, ih]
    | true =>
      obtain ⟨t, hcut, -⟩ := exists_eq_dropEndWhile_append p (c :: s)
      rw [List.takeWhile_cons_of_neg (by simp [h c hc])]
      cases hs : dropEndWhile p (c :: s) with
      | nil => rfl
      | cons d t' =>
        rw [hs, List.cons_append] at hcut
        obtain rfl := (List.cons.inj hcut).1
        exact List.takeWhile_cons_of_neg (by simp [h c hc])

theorem allBlank_spaces (n : Nat) : allBlank (List.replicate n ' ') = true := by
  rw [allBlank, List.all_eq_true]
  intro c hc
  rw [List.eq_of_mem_replicate hc]
  rfl

theorem indentOf_spaces_append (n : Nat) (l : List Char) :
    indentOf (List.replicate n ' ' ++ l) = n + indentOf l := by
  unfold indentOf
  rw [List.takeWhile_append_of_pos, List.length_append, List.length_replicate]
  intro c hc
  rw [List.eq_of_mem_replicate hc]
  rfl

theorem indentOf_le_length (s : List Char) : indentOf s ≤ s.length :=
  (List.takeWhile_prefix isIndent).length_le

theorem all_take_of_le_indentOf {n : Nat} (h : n ≤ indentOf s) :
    (s.take n).all isIndent = true := by
  have hindent : s.takeWhile isIndent = s.take (indentOf s) :=
    List.prefix_iff_eq_take.1 (List.takeWhile_prefix isIndent)
  have htake : s.take n <+: s.takeWhile isIndent := hindent ▸ List.take_prefix_take_left h
  exact List.all_eq_true.2 fun c hc => List.all_eq_true.1 List.all_takeWhile c (htake.subset hc)

theorem allBlank_of_all_isIndent (h : s.all isIndent = true) : allBlank s = true :=
  List.all_eq_true.2 fun c hc => isBlank_of_isIndent (List.all_eq_true.1 h c hc)

/-! ## Right trim -/

theorem trimEnd_append (ht : trimEnd t = t) (hne : t ≠ []) : trimEnd (s ++ t) = s ++ t := by
  have h := dropEndWhile_append_of_ne_nil (s := s) (p := isBlank) (t := t) (by
    show trimEnd t ≠ []
    rw [ht]; exact hne)
  rw [trimEnd, h]
  exact congrArg (s ++ ·) ht

theorem trimEnd_cons_of_not {c : Char} (hc : isBlank c = false) (s : List Char) :
    trimEnd (c :: s) = c :: trimEnd s := dropEndWhile_cons_of_not hc s

theorem trimEnd_append_of_allBlank (ht : allBlank t = true) : trimEnd (s ++ t) = trimEnd s :=
  dropEndWhile_append_of_all ht

theorem trimEnd_of_allBlank (hs : allBlank s = true) : trimEnd s = [] :=
  dropEndWhile_eq_nil_of_all hs

/-- A text without blanks at its end that holds nothing but blanks is empty. -/
theorem eq_nil_of_allBlank (ht : trimEnd s = s) (hs : allBlank s = true) : s = [] := by
  rw [← ht, trimEnd_of_allBlank hs]

theorem isBlank_getLast {c : Char} (ht : trimEnd s = s) (hc : s.getLast? = some c) :
    isBlank c = false := by
  rw [← ht] at hc
  exact getLast?_dropEndWhile hc

/-- The end of a text without blanks at its end has none there. -/
theorem trimEnd_of_append (h : trimEnd (s ++ t) = s ++ t) : trimEnd t = t := by
  cases hc : t.getLast? with
  | none =>
    rw [List.getLast?_eq_none_iff.1 hc]
    rfl
  | some c =>
    refine dropEndWhile_eq_self hc (isBlank_getLast h ?_)
    rw [List.getLast?_append, hc, Option.some_or]

/-! ## Trim at both ends -/

theorem mem_of_mem_dropEndWhile {c : Char} (h : c ∈ dropEndWhile p s) : c ∈ s := by
  unfold dropEndWhile at h
  exact List.mem_reverse.1 ((List.dropWhile_sublist p).subset (List.mem_reverse.1 h))

theorem mem_of_mem_trim {c : Char} (h : c ∈ trim s) : c ∈ s :=
  (List.dropWhile_sublist isBlank).subset (mem_of_mem_dropEndWhile h)

theorem trimStart_cons_of_not {c : Char} (hc : isBlank c = false) :
    trimStart (c :: s) = c :: s := by
  simp [trimStart, hc]

theorem trimStart_append_of_allBlank (hs : allBlank s = true) :
    trimStart (s ++ t) = trimStart t :=
  List.dropWhile_append_of_pos fun c hc => List.all_eq_true.1 hs c hc

theorem trimStart_of_allBlank (hs : allBlank s = true) : trimStart s = [] := by
  have h := trimStart_append_of_allBlank (t := []) hs
  rwa [List.append_nil] at h

theorem trim_of_allBlank (hs : allBlank s = true) : trim s = [] := by
  rw [trim, trimStart_of_allBlank hs]
  rfl

theorem trim_append_of_allBlank (ht : allBlank t = true) : trim (s ++ t) = trim s := by
  rw [trim, trimStart, List.dropWhile_append]
  split
  next hs =>
    have hnil : trimStart s = [] := List.isEmpty_iff.1 hs
    have hblank : t.dropWhile isBlank = [] := trimStart_of_allBlank ht
    rw [trim, hnil, hblank]
  next => exact trimEnd_append_of_allBlank ht

/-- Blanks around a text are cut. -/
theorem trim_padded {front back : List Char} (hfront : allBlank front = true)
    (hback : allBlank back = true) : trim (front ++ s ++ back) = trim s := by
  rw [trim_append_of_allBlank hback, trim, trimStart_append_of_allBlank hfront, trim]

/-- A text is its trim between blanks. -/
theorem exists_eq_append_trim_append (s : List Char) :
    ∃ front back, s = front ++ trim s ++ back ∧ allBlank front = true ∧ allBlank back = true := by
  obtain ⟨back, hcut, hback⟩ := exists_eq_dropEndWhile_append isBlank (trimStart s)
  refine ⟨s.takeWhile isBlank, back, ?_, List.all_takeWhile, hback⟩
  calc s = s.takeWhile isBlank ++ trimStart s := List.takeWhile_append_dropWhile.symm
    _ = s.takeWhile isBlank ++ trim s ++ back := by rw [List.append_assoc]; exact congrArg _ hcut

/-- A text without blanks at its end is its trim behind the blanks it starts with. -/
theorem takeWhile_append_trim (h : trimEnd s = s) : s.takeWhile isBlank ++ trim s = s := by
  have hcut : s.takeWhile isBlank ++ trimStart s = s := List.takeWhile_append_dropWhile
  have hend : trimEnd (trimStart s) = trimStart s := trimEnd_of_append (by rw [hcut]; exact h)
  rw [trim, hend, hcut]

theorem trim_eq_self {c : Char} (hc : isBlank c = false) (ht : trimEnd (c :: s) = c :: s) :
    trim (c :: s) = c :: s := by
  rw [trim, trimStart_cons_of_not hc, ht]

/-- A text is its own trim when neither end of it is a blank. -/
theorem trim_of_ends (hh : ∀ c, s.head? = some c → isBlank c = false)
    (hl : ∀ c, s.getLast? = some c → isBlank c = false) : trim s = s := by
  cases s with
  | nil => rfl
  | cons c s =>
    have hc := List.getLast?_eq_some_getLast (List.cons_ne_nil c s)
    exact trim_eq_self (hh c rfl) (dropEndWhile_eq_self hc (hl _ hc))

theorem trim_of_noBlank (h : ∀ c ∈ s, isBlank c = false) : trim s = s :=
  trim_of_ends (fun _ hc => h _ (List.mem_of_mem_head? hc))
    (fun _ hc => h _ (List.mem_of_getLast? hc))

/-- A text that is its own trim starts with no blank. -/
theorem isBlank_head {c : Char} (hs : trim (c :: s) = c :: s) : isBlank c = false := by
  cases hc : isBlank c with
  | false => rfl
  | true =>
    -- one character is cut at the front, and what is left grows no longer
    have h : trimStart (c :: s) = s.dropWhile isBlank := by simp [trimStart, hc]
    have h₁ : (s.dropWhile isBlank).length ≤ s.length := (List.dropWhile_sublist _).length_le
    have h₂ := (List.dropWhile_sublist isBlank (l := (s.dropWhile isBlank).reverse)).length_le
    have h₃ := congrArg List.length hs
    rw [trim, h, trimEnd, dropEndWhile, List.length_reverse, List.length_cons] at h₃
    rw [List.length_reverse] at h₂
    omega

theorem trim_trim (s : List Char) : trim (trim s) = trim s := by
  cases hs : trimStart s with
  | nil =>
    rw [trim, trim, hs]
    rfl
  | cons c t =>
    have hc : isBlank c = false := by
      have hhead := List.head?_dropWhile_not isBlank s
      rw [← trimStart, hs] at hhead
      simpa using hhead
    rw [trim, trim, hs, trimEnd_cons_of_not hc]
    exact trim_eq_self hc (by rw [trimEnd_cons_of_not hc]; exact congrArg _ (dropEndWhile_idem _ _))

theorem trim_eq_nil_iff : trim s = [] ↔ allBlank s = true := by
  refine ⟨fun h => ?_, trim_of_allBlank⟩
  obtain ⟨front, back, hcut, hfront, hback⟩ := exists_eq_append_trim_append s
  rw [h, List.append_nil] at hcut
  rw [hcut, allBlank, List.all_append, Bool.and_eq_true]
  exact ⟨hfront, hback⟩

theorem trimEnd_of_trim (hs : trim s = s) : trimEnd s = s := by
  cases s with
  | nil => rfl
  | cons c s =>
    rwa [trim, trimStart_cons_of_not (isBlank_head hs)] at hs

end BusDoc.Text
