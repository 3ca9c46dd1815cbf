import BusDoc.Proofs.Text.Join
import BusDoc.Proofs.Text.Trim
import BusDoc.Text.Braces

/-!
# Texts with braces

What stands outside braces in a text is read from the depth that the text before it leaves
(`depthAfter`). A text with closed braces (`isBalanced`) leaves none open, so what stands in it
decides nothing about what follows it.

* `lacksTop_append_eq`: what is missing outside braces in a text is missing in its two parts, the
  second of which is read from the depth that the first one leaves.
* `isBalanced_braces`, `lacksTop_braces`: such a text in braces is one again, and has nothing
  outside its braces.
* `cutLastBlank_append`: behind such a text, a blank before a text without any is the last one.
-/

namespace BusDoc.Text

variable {p : Char → Bool} {depth : Nat} {s t : List Char}

/-- Every brace is closed, and none is closed that is not open, `depth` being open at first. -/
def isBalanced : (depth : Nat) → List Char → Bool
  | depth, [] => depth = 0
  | depth, c :: s => !(depth = 0 && c = '}') && isBalanced (braceDepth depth c) s

/-- The depth at the end of a text. -/
def depthAfter (depth : Nat) (s : List Char) : Nat := s.foldl braceDepth depth

/-- No character of `p` stands outside braces. -/
def lacksTop (p : Char → Bool) : (depth : Nat) → List Char → Bool
  | _, [] => true
  | depth, c :: s => !(depth = 0 && p c) && lacksTop p (braceDepth depth c) s

theorem isBalanced_of_cons {c : Char} (h : isBalanced depth (c :: s) = true) :
    isBalanced (braceDepth depth c) s = true := by
  rw [isBalanced, Bool.and_eq_true] at h
  exact h.2

theorem lacksTop_of_cons {c : Char} (h : lacksTop p depth (c :: s) = true) :
    lacksTop p (braceDepth depth c) s = true := by
  rw [lacksTop, Bool.and_eq_true] at h
  exact h.2

theorem not_of_lacksTop_cons {c : Char} (h : lacksTop p 0 (c :: s) = true) : p c = false := by
  rw [lacksTop, Bool.and_eq_true] at h
  simpa using h.1

theorem isBalanced_append (hs : isBalanced depth s = true) (ht : isBalanced 0 t = true) :
    isBalanced depth (s ++ t) = true := by
  induction s generalizing depth with
  | nil =>
    have hd : depth = 0 := by simpa [isBalanced] using hs
    rw [hd]
    exact ht
  | cons c s ih =>
    rw [isBalanced, Bool.and_eq_true] at hs
    rw [List.cons_append, isBalanced, hs.1, ih hs.2]
    rfl

theorem depthAfter_of_isBalanced (h : isBalanced depth s = true) : depthAfter depth s = 0 := by
  induction s generalizing depth with
  | nil => simpa [isBalanced, depthAfter] using h
  | cons c s ih => exact ih (isBalanced_of_cons h)

theorem lacksTop_append_eq (p : Char → Bool) (depth : Nat) (s t : List Char) :
    lacksTop p depth (s ++ t) = (lacksTop p depth s && lacksTop p (depthAfter depth s) t) := by
  induction s generalizing depth with
  | nil => rfl
  | cons c s ih => rw [List.cons_append, lacksTop, lacksTop, ih, Bool.and_assoc]; rfl

theorem lacksTop_append (hb : isBalanced depth s = true) (hs : lacksTop p depth s = true)
    (ht : lacksTop p 0 t = true) : lacksTop p depth (s ++ t) = true := by
  rw [lacksTop_append_eq, hs, depthAfter_of_isBalanced hb, ht]
  rfl

theorem braceDepth_of_ne {c : Char} (ho : c ≠ '{') (hc : c ≠ '}') : braceDepth depth c = depth := by
  simp [braceDepth, ho, hc]

theorem isBalanced_of_noBrace (h : ∀ c ∈ s, c ≠ '{' ∧ c ≠ '}') : isBalanced 0 s = true := by
  induction s with
  | nil => rfl
  | cons c s ih =>
    obtain ⟨ho, hc⟩ := h c List.mem_cons_self
    rw [isBalanced, braceDepth_of_ne ho hc, ih fun d hd => h d (List.mem_cons_of_mem _ hd)]
    simp [hc]

theorem lacksTop_of_none (h : ∀ c ∈ s, p c = false) : lacksTop p depth s = true := by
  induction s generalizing depth with
  | nil => rfl
  | cons c s ih =>
    rw [lacksTop, h c List.mem_cons_self, ih fun d hd => h d (List.mem_cons_of_mem _ hd)]
    simp

/-! ## Texts in braces -/

/-- Reading between braces, the depth is one more. -/
theorem braceDepth_succ {c : Char} (h : depth = 0 → c ≠ '}') :
    braceDepth (depth + 1) c = braceDepth depth c + 1 := by
  unfold braceDepth
  split
  · rfl
  · split
    next hc =>
      have hdepth : depth ≠ 0 := fun h0 => h h0 hc
      omega
    next => rfl

theorem isBalanced_cons_iff {c : Char} : isBalanced depth (c :: s) = true ↔
    (depth = 0 → c ≠ '}') ∧ isBalanced (braceDepth depth c) s = true := by
  simp [isBalanced, Decidable.imp_iff_not_or]

theorem isBalanced_close (h : isBalanced depth s = true) :
    isBalanced (depth + 1) (s ++ ['}']) = true := by
  induction s generalizing depth with
  | nil =>
    have hd : depth = 0 := by simpa [isBalanced] using h
    rw [hd]
    rfl
  | cons c s ih =>
    obtain ⟨hc, hs⟩ := isBalanced_cons_iff.1 h
    rw [List.cons_append, isBalanced_cons_iff, braceDepth_succ hc]
    exact ⟨by simp, ih hs⟩

/-- Nothing of a text in braces stands outside them. -/
theorem lacksTop_close (h : isBalanced depth s = true) :
    lacksTop p (depth + 1) (s ++ ['}']) = true := by
  induction s generalizing depth with
  | nil =>
    have hd : depth = 0 := by simpa [isBalanced] using h
    rw [hd]
    rfl
  | cons c s ih =>
    obtain ⟨hc, hs⟩ := isBalanced_cons_iff.1 h
    rw [List.cons_append, lacksTop, braceDepth_succ hc, ih hs]
    simp

theorem isBalanced_braces (h : isBalanced 0 s = true) :
    isBalanced 0 ('{' :: (s ++ ['}'])) = true :=
  isBalanced_cons_iff.2 ⟨by decide, isBalanced_close h⟩

theorem lacksTop_braces (hp : p '{' = false) (h : isBalanced 0 s = true) :
    lacksTop p 0 ('{' :: (s ++ ['}'])) = true := by
  rw [lacksTop, hp, Bool.and_false, Bool.not_false, Bool.true_and]
  exact lacksTop_close h

/-- What is missing outside braces is no last character of a text with closed braces. -/
theorem not_getLast_of_lacksTop {c : Char} (hb : isBalanced depth s = true)
    (hs : lacksTop p depth s = true) (hp : p '}' = false) (hc : s.getLast? = some c) :
    p c = false := by
  induction s generalizing depth with
  | nil => cases hc
  | cons a s ih =>
    cases s with
    | nil =>
      obtain rfl : a = c := by simpa using hc
      have hd : braceDepth depth a = 0 := by simpa [isBalanced] using isBalanced_of_cons hb
      by_cases ha : a = '}'
      · rw [ha, hp]
      · -- only a closing brace leads to depth zero from a greater one
        have hd : depth = 0 := by
          unfold braceDepth at hd
          split at hd
          · omega
          · simpa [ha] using hd
        subst hd
        exact not_of_lacksTop_cons hs
    | cons b s =>
      rw [List.getLast?_cons_cons] at hc
      exact ih (isBalanced_of_cons hb) (lacksTop_of_cons hs) hc

theorem isBalanced_join {sep : List Char} {parts : List (List Char)}
    (hsep : isBalanced 0 sep = true) (h : ∀ s ∈ parts, isBalanced 0 s = true) :
    isBalanced 0 (join sep parts) = true := by
  induction parts with
  | nil => rfl
  | cons s parts ih =>
    rw [List.forall_mem_cons] at h
    cases parts with
    | nil => exact h.1
    | cons t parts =>
      rw [join_cons_of_ne_nil _ _ (by simp), List.append_assoc]
      exact isBalanced_append h.1 (isBalanced_append hsep (ih h.2))

/-! ## The last blank -/

theorem cutLastBlank_eq_none (h : lacksTop isBlank depth s = true) :
    cutLastBlank depth s = none := by
  induction s generalizing depth with
  | nil => rfl
  | cons c s ih =>
    rw [cutLastBlank, ih (lacksTop_of_cons h), if_neg]
    rintro ⟨hc, rfl⟩
    rw [not_of_lacksTop_cons h] at hc
    cases hc

theorem cutLastBlank_append (hs : isBalanced depth s = true) (ht : lacksTop isBlank 0 t = true) :
    cutLastBlank depth (s ++ ' ' :: t) = some (s, ' ' :: t) := by
  induction s generalizing depth with
  | nil =>
    have hd : depth = 0 := by simpa [isBalanced] using hs
    subst hd
    have hdepth : braceDepth 0 ' ' = 0 := rfl
    rw [List.nil_append, cutLastBlank, hdepth, cutLastBlank_eq_none ht, if_pos ⟨rfl, rfl⟩]
  | cons c s ih => rw [List.cons_append, cutLastBlank, ih (isBalanced_of_cons hs)]

end BusDoc.Text
