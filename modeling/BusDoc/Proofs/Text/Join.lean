import BusDoc.Text.Lines

/-!
# Joined texts

* `join_append`: the texts of two lists joined are the two lists joined.
* `mem_join`, `getLast?_join`: where a character of the joined texts, and the last one, comes from.
-/

namespace BusDoc.Text

theorem join_cons_cons (sep : List Char) (c : Char) (s : List Char) (parts : List (List Char)) :
    join sep ((c :: s) :: parts) = c :: join sep (s :: parts) := by
  cases parts <;> rfl

theorem join_append_cons (sep s t : List Char) (parts : List (List Char)) :
    join sep ((s ++ t) :: parts) = s ++ join sep (t :: parts) := by
  cases parts <;> simp [join]

theorem join_append {sep : List Char} {xs ys : List (List Char)} (hx : xs ≠ []) (hy : ys ≠ []) :
    join sep (xs ++ ys) = join sep xs ++ sep ++ join sep ys := by
  induction xs with
  | nil => exact absurd rfl hx
  | cons x xs ih =>
    cases xs with
    | nil => rw [List.singleton_append, join_cons_of_ne_nil _ _ hy]; rfl
    | cons x' xs =>
      rw [List.cons_append, join_cons_of_ne_nil sep x (by simp), ih (by simp),
        join_cons_of_ne_nil sep x (List.cons_ne_nil x' xs)]
      simp only [List.append_assoc]

theorem join_eq_intercalate (sep : List Char) (xs : List (List Char)) :
    join sep xs = sep.intercalate xs := by
  induction xs with
  | nil => rfl
  | cons x xs ih =>
    cases xs with
    | nil => simp [join]
    | cons y xs => rw [join_cons_of_ne_nil _ _ (by simp), ih, List.intercalate_cons_cons]

theorem mem_join {sep : List Char} {xs : List (List Char)} {c : Char} (h : c ∈ join sep xs) :
    c ∈ sep ∨ ∃ x ∈ xs, c ∈ x := by
  induction xs with
  | nil => cases h
  | cons x xs ih =>
    by_cases hxs : xs = []
    · subst hxs
      exact .inr ⟨x, List.mem_cons_self, h⟩
    · rw [join_cons_of_ne_nil _ _ hxs, List.mem_append, List.mem_append] at h
      obtain (h | h) | h := h
      · exact .inr ⟨x, List.mem_cons_self, h⟩
      · exact .inl h
      · obtain h | ⟨y, hy, hc⟩ := ih h
        · exact .inl h
        · exact .inr ⟨y, List.mem_cons_of_mem _ hy, hc⟩

theorem join_ne_nil {sep x : List Char} (hx : x ≠ []) (xs : List (List Char)) :
    join sep (x :: xs) ≠ [] := by
  cases xs with
  | nil => exact hx
  | cons y ys => simp [join, hx]

/-- What holds of the last character of each text holds of the last one of them joined. -/
theorem getLast?_join {P : Char → Prop} {sep : List Char} {xs : List (List Char)}
    (hne : ∀ x ∈ xs, x ≠ []) (h : ∀ x ∈ xs, ∀ c, x.getLast? = some c → P c) :
    ∀ c, (join sep xs).getLast? = some c → P c := by
  induction xs with
  | nil => intro c hc; cases hc
  | cons x xs ih =>
    cases xs with
    | nil => exact h x List.mem_cons_self
    | cons y ys =>
      intro c hc
      have hj : join sep (y :: ys) ≠ [] := join_ne_nil (hne y (by simp)) ys
      have hlast := List.getLast?_eq_some_getLast hj
      rw [join_cons_of_ne_nil _ _ (by simp), List.getLast?_append, hlast, Option.some_or,
        ← hlast] at hc
      exact ih (fun z hz => hne z (List.mem_cons_of_mem _ hz))
        (fun z hz => h z (List.mem_cons_of_mem _ hz)) c hc

end BusDoc.Text
