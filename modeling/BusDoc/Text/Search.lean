import BusDoc.Text.Blank

/-!
# Finding a text inside another

`after?` is the rest of a text behind a given start, `before?` the rest before a given end, and
`cut?` splits a text at the leftmost occurrence of another.

* `after?_eq_some_iff`, `cut?_eq`: the parts and the text that was looked for make up the whole.
* `startsWith_iff`, `contains_iff`: a text is found exactly where it occurs.
* `removeFirst_of_not_contains`: a text that is not there is not removed.
* `ne_append_of_not_endsWith`: a text that does not end with another is no text before it.
-/

namespace BusDoc.Text

/-- What follows `start` in a text that begins with it. -/
def after? : (start s : List Char) → Option (List Char)
  | [], s => some s
  | _ :: _, [] => none
  | a :: start, c :: s => if a = c then after? start s else none

/-- What precedes `tail` in a text that ends with it. -/
def before? (tail s : List Char) : Option (List Char) :=
  (after? tail.reverse s.reverse).map List.reverse

/-- The text before and the text after the leftmost occurrence of `part`. -/
def cut? (part : List Char) : List Char → Option (List Char × List Char)
  | [] => if part.isEmpty then some ([], []) else none
  | c :: s =>
    match after? part (c :: s) with
    | some rest => some ([], rest)
    | none => (cut? part s).map fun (front, rest) => (c :: front, rest)

/-- Some occurrence of `part` lies in the text. -/
def contains (part s : List Char) : Bool := (cut? part s).isSome

/-- The text without the leftmost occurrence of `part`. -/
def removeFirst (part s : List Char) : List Char :=
  match cut? part s with
  | some (front, rest) => front ++ rest
  | none => s

/-- The text begins with `start`. -/
def startsWith (start s : List Char) : Bool := (after? start s).isSome

/-- The text ends with `tail`. -/
def endsWith (tail s : List Char) : Bool := (before? tail s).isSome

theorem after?_eq_some_iff {start s rest : List Char} :
    after? start s = some rest ↔ s = start ++ rest := by
  induction start generalizing s with
  | nil => simp [after?, eq_comm]
  | cons a start ih =>
    cases s with
    | nil => simp [after?]
    | cons c s =>
      by_cases h : a = c
      · simp [after?, h, ih]
      · simp [after?, h, Ne.symm h]

theorem before?_eq_some_iff {tail s front : List Char} :
    before? tail s = some front ↔ s = front ++ tail := by
  simp only [before?, Option.map_eq_some_iff, after?_eq_some_iff]
  constructor
  · rintro ⟨r, hr, rfl⟩
    have := congrArg List.reverse hr
    simpa using this
  · rintro rfl
    exact ⟨front.reverse, by simp, by simp⟩

theorem ne_append_of_not_endsWith {s tail : List Char} (h : endsWith tail s = false)
    (front : List Char) : s ≠ front ++ tail := by
  intro e
  rw [endsWith, before?_eq_some_iff.2 e] at h
  cases h

theorem cut?_eq {part s front rest : List Char} (h : cut? part s = some (front, rest)) :
    s = front ++ part ++ rest := by
  induction s generalizing front rest with
  | nil =>
    simp only [cut?, List.isEmpty_iff] at h
    split at h
    next hp => simp only [Option.some.injEq, Prod.mk.injEq] at h; simp [← h.1, ← h.2, hp]
    next => simp at h
  | cons c s ih =>
    simp only [cut?] at h
    split at h
    next r hr =>
      simp only [Option.some.injEq, Prod.mk.injEq] at h
      rw [after?_eq_some_iff.1 hr, ← h.1, ← h.2, List.nil_append]
    next =>
      obtain ⟨⟨f, r⟩, hf, he⟩ := Option.map_eq_some_iff.1 h
      simp only [Prod.mk.injEq] at he
      rw [← he.1, ← he.2, ih hf]
      simp

theorem isSome_cut?_append (part front rest : List Char) :
    (cut? part (front ++ part ++ rest)).isSome := by
  induction front with
  | nil =>
    rw [List.nil_append]
    cases hs : part ++ rest with
    | nil =>
      have hpart : part = [] := (List.append_eq_nil_iff.1 hs).1
      simp [cut?, hpart]
    | cons c s =>
      have hafter : after? part (c :: s) = some rest := after?_eq_some_iff.2 hs.symm
      simp [cut?, hafter]
  | cons c front ih =>
    rw [List.cons_append, List.cons_append, cut?]
    cases after? part (c :: (front ++ part ++ rest)) with
    | some r => rfl
    | none => simpa using ih

theorem startsWith_iff {start s : List Char} : startsWith start s = true ↔ start <+: s := by
  rw [startsWith, Option.isSome_iff_exists]
  exact exists_congr fun rest => after?_eq_some_iff.trans eq_comm

theorem contains_iff {part s : List Char} : contains part s = true ↔ part <:+: s := by
  unfold contains
  constructor
  · intro h
    obtain ⟨⟨front, rest⟩, hcut⟩ := Option.isSome_iff_exists.1 h
    exact ⟨front, rest, (cut?_eq hcut).symm⟩
  · rintro ⟨front, rest, rfl⟩
    exact isSome_cut?_append part front rest

theorem mem_of_mem_removeFirst {part s : List Char} {c : Char} (h : c ∈ removeFirst part s) :
    c ∈ s := by
  unfold removeFirst at h
  split at h
  next front rest hcut =>
    rw [cut?_eq hcut]
    simp only [List.mem_append] at h ⊢
    exact h.imp .inl id
  next => exact h

/-- What a text begins with stays if the text to remove begins otherwise. -/
theorem removeFirst_cons_of_ne {a c : Char} (hne : a ≠ c) (part s : List Char) :
    removeFirst (a :: part) (c :: s) = c :: removeFirst (a :: part) s := by
  have hafter : after? (a :: part) (c :: s) = none := by rw [after?, if_neg hne]
  rw [removeFirst, removeFirst, cut?, hafter]
  cases cut? (a :: part) s <;> rfl

theorem removeFirst_of_not_contains {part s : List Char} (h : contains part s = false) :
    removeFirst part s = s := by
  rw [contains, Option.isSome_eq_false_iff, Option.isNone_iff_eq_none] at h
  rw [removeFirst, h]

end BusDoc.Text
