import BusDoc.Text.Search

/-!
# Taking a text out of another

`removeFirst` takes out the leftmost occurrence, and what stood around it comes together.

* `prefix_of_cut?`: no occurrence lies further to the left.
* `infix_append_cons`: an occurrence in two texts with another character between them.
* `eq_nil_or_append_of_occurrences`, `infix_removeFirst_iff`: occurrences that do not overlap, and
  when one is left.
* `takeWhile_removeFirst`: taking out and cutting off the first word in either order.
-/

namespace BusDoc.Text

theorem after?_append {start s rest : List Char} (h : after? start s = some rest) (t : List Char) :
    after? start (s ++ t) = some (rest ++ t) := by
  rw [after?_eq_some_iff] at h ⊢
  rw [h, List.append_assoc]

/-- No occurrence lies further to the left than the one that a text is cut at. -/
theorem prefix_of_cut? {part s front rest before after : List Char}
    (h : cut? part s = some (front, rest)) (hs : s = before ++ part ++ after) :
    front <+: before := by
  induction s generalizing front before with
  | nil =>
    rw [cut?] at h
    split at h
    next => cases h; exact List.nil_prefix
    next => cases h
  | cons c s ih =>
    rw [cut?] at h
    cases hafter : after? part (c :: s) with
    | some r =>
      rw [hafter] at h
      cases h
      exact List.nil_prefix
    | none =>
      rw [hafter] at h
      obtain ⟨⟨f, r⟩, hcut, he⟩ := Option.map_eq_some_iff.1 h
      cases he
      cases before with
      | nil =>
        have hfound : after? part (c :: s) = some after := after?_eq_some_iff.2 hs
        rw [hfound] at hafter
        cases hafter
      | cons d before =>
        obtain ⟨rfl, htail⟩ := List.cons.inj hs
        exact List.cons_prefix_cons.2 ⟨rfl, ih hcut htail⟩

theorem removeFirst_cons_of_some {part s rest : List Char} {c : Char}
    (h : after? part (c :: s) = some rest) : removeFirst part (c :: s) = rest := by
  rw [removeFirst, cut?, h]
  rfl

theorem removeFirst_cons_of_none {part s : List Char} {c : Char}
    (h : after? part (c :: s) = none) : removeFirst part (c :: s) = c :: removeFirst part s := by
  rw [removeFirst, removeFirst, cut?, h]
  cases cut? part s <;> rfl

/-- A text whose first character does not come again in it does not overlap itself: of two
occurrences the right one is the left one, or lies behind it. -/
theorem eq_nil_or_append_of_occurrences {a : Char} {part rest more after : List Char}
    (ha : a ∉ part) (h : (a :: part) ++ rest = more ++ ((a :: part) ++ after)) :
    more = [] ∨ ∃ between, more = (a :: part) ++ between := by
  rw [List.append_eq_append_iff] at h
  obtain ⟨between, hmore, -⟩ | ⟨k, hpart, hrest⟩ := h
  · exact .inr ⟨between, hmore⟩
  · cases k with
    | nil => exact .inr ⟨[], by simpa using hpart.symm⟩
    | cons d k =>
      cases more with
      | nil => exact .inl rfl
      | cons b more =>
        obtain ⟨-, htail⟩ := List.cons.inj hpart
        obtain ⟨rfl, -⟩ := List.cons.inj hrest
        exact absurd (htail ▸ List.mem_append_right more List.mem_cons_self) ha

/-- An occurrence of such a text is left when the leftmost one is taken out, exactly if one can be
taken out and leave one. -/
theorem infix_removeFirst_iff {a : Char} {part s : List Char} (ha : a ∉ part) :
    (a :: part) <:+: removeFirst (a :: part) s ↔
      ∃ before after, s = before ++ (a :: part) ++ after ∧ (a :: part) <:+: before ++ after := by
  constructor
  · intro h
    rw [removeFirst] at h
    split at h
    next front rest hcut => exact ⟨front, rest, cut?_eq hcut, h⟩
    next hcut =>
      rw [← contains_iff, contains, hcut] at h
      cases h
  · rintro ⟨before, after, hs, h⟩
    obtain ⟨⟨front, rest⟩, hcut⟩ := Option.isSome_iff_exists.1
      (hs ▸ isSome_cut?_append (a :: part) before after)
    obtain ⟨more, rfl⟩ := prefix_of_cut? hcut hs
    have hrest : (a :: part) ++ rest = more ++ ((a :: part) ++ after) := by
      rw [cut?_eq hcut] at hs
      simpa using hs
    rw [removeFirst, hcut]
    obtain rfl | ⟨between, rfl⟩ := eq_nil_or_append_of_occurrences ha hrest
    · obtain rfl : rest = after := by simpa using hrest
      rwa [List.append_nil] at h
    · -- the other occurrence is still there
      exact ⟨front ++ between, after, by simpa using hrest.symm⟩

/-- A text in two parts, with a character between them that is not looked for. -/
theorem infix_append_cons {part s t : List Char} {a : Char} (ha : a ∉ part) :
    part <:+: s ++ a :: t ↔ part <:+: s ∨ part <:+: t := by
  constructor
  · rintro ⟨before, after, h⟩
    rw [List.append_eq_append_iff] at h
    obtain ⟨m, rfl, -⟩ | ⟨m, hm, ht⟩ := h
    · exact .inl ⟨before, m, rfl⟩
    · cases m with
      | nil => exact .inl ⟨before, [], by simpa using hm⟩
      | cons b m =>
        obtain ⟨rfl, rfl⟩ := List.cons.inj ht
        rw [List.append_eq_append_iff] at hm
        obtain ⟨k, -, rfl⟩ | ⟨k, -, hk⟩ := hm
        · exact absurd (by simp) ha
        · cases k with
          | nil => exact absurd (by simp [← show _ = part by simpa using hk]) ha
          | cons d k =>
            obtain ⟨-, rfl⟩ := List.cons.inj hk
            exact .inr ⟨k, after, rfl⟩
  · rintro (h | h)
    · exact h.trans (List.prefix_append s _).isInfix
    · exact h.trans ⟨s ++ [a], [], by simp⟩

/-- The first word of a text from which another is removed is its own first word with that removed
from it, if the other text holds nothing that ends a word. -/
theorem takeWhile_removeFirst {p : Char → Bool} {part word rest : List Char} (hne : part ≠ [])
    (hpart : ∀ c ∈ part, p c = true) (hword : ∀ c ∈ word, p c = true)
    (hrest : rest.head?.all (fun c => !p c) = true) :
    (removeFirst part (word ++ rest)).takeWhile p = removeFirst part word := by
  induction word with
  | nil =>
    obtain ⟨b, part, rfl⟩ := List.exists_cons_of_ne_nil hne
    cases rest with
    | nil => rfl
    | cons d rest =>
      have hd : p d = false := by simpa using hrest
      have hbd : b ≠ d := by
        rintro rfl
        rw [hpart b List.mem_cons_self] at hd
        cases hd
      rw [List.nil_append, removeFirst_cons_of_ne hbd, List.takeWhile_cons_of_neg (by simp [hd])]
      rfl
  | cons c word ih =>
    cases hafter : after? part (c :: word) with
    | some r =>
      have hr : ∀ d ∈ r, p d = true := fun d hd => by
        have hmem : d ∈ c :: word := after?_eq_some_iff.1 hafter ▸ List.mem_append_right part hd
        exact hword d hmem
      have hstop : rest.takeWhile p = [] := by
        cases rest with
        | nil => rfl
        | cons d rest => exact List.takeWhile_cons_of_neg (by simpa using hrest)
      have hfound : after? part (c :: (word ++ rest)) = some (r ++ rest) :=
        after?_append hafter rest
      rw [removeFirst_cons_of_some hafter, List.cons_append, removeFirst_cons_of_some hfound,
        List.takeWhile_append_of_pos hr, hstop, List.append_nil]
    | none =>
      have hnone : after? part (c :: (word ++ rest)) = none := by
        rw [Option.eq_none_iff_forall_ne_some]
        intro r hr
        rw [after?_eq_some_iff, ← List.cons_append, List.append_eq_append_iff] at hr
        obtain ⟨m, hm, htail⟩ | ⟨m, hm, -⟩ := hr
        · cases m with
          | nil =>
            have hfound : after? part (c :: word) = some [] :=
              after?_eq_some_iff.2 (by simpa using hm.symm)
            rw [hfound] at hafter
            cases hafter
          | cons d m =>
            rw [htail, List.cons_append, List.head?_cons] at hrest
            simp [hpart d (by simp [hm])] at hrest
        · rw [after?_eq_some_iff.2 hm] at hafter
          cases hafter
      rw [removeFirst_cons_of_none hafter, List.cons_append, removeFirst_cons_of_none hnone,
        List.takeWhile_cons_of_pos (hword c List.mem_cons_self),
        ih fun d hd => hword d (List.mem_cons_of_mem _ hd)]

end BusDoc.Text
