import BusDoc.Proofs.Text.Join
import BusDoc.Proofs.Text.Letter
import BusDoc.Text.Quoted

/-!
# Texts on one line

* `OneLine.append`, `OneLine.intercalate`: what is put together from texts on one line is on one.
* `oneLine_quoted`: a literal is on one line, whatever text it stands for.
-/

namespace BusDoc.Text

/-- The text holds no line feed. -/
abbrev OneLine (s : String) : Prop := '\n' ∉ s.toList

theorem OneLine.append {s t : String} (hs : OneLine s) (ht : OneLine t) : OneLine (s ++ t) := by
  rw [OneLine, String.toList_append, List.mem_append]
  exact not_or.2 ⟨hs, ht⟩

theorem OneLine.intercalate {sep : String} {parts : List String} (hsep : OneLine sep)
    (h : ∀ s ∈ parts, OneLine s) : OneLine (sep.intercalate parts) := by
  intro hmem
  rw [String.toList_intercalate, ← join_eq_intercalate] at hmem
  rcases mem_join hmem with hc | ⟨chars, hchars, hc⟩
  · exact hsep hc
  · obtain ⟨s, hs, rfl⟩ := List.mem_map.1 hchars
    exact h s hs hc

theorem oneLine_of_isIdentRest {s : String} (h : ∀ c ∈ s.toList, isIdentRest c = true) :
    OneLine s :=
  fun hmem => (plain_of_isIdentRest (h '\n' hmem)).2.2 rfl

/-! ## Literals -/

theorem digitChar_ne_feed (k : Nat) : Nat.digitChar k ≠ '\n' := by
  have hdigit : ∀ k < 16, Nat.digitChar k ≠ '\n' := by decide
  by_cases hk : k < 16
  · exact hdigit k hk
  · rw [Nat.digitChar_eq_star.2 (by omega)]
    decide

theorem notMem_toDigitsCore {base fuel n : Nat} {digits : List Char} (h : '\n' ∉ digits) :
    '\n' ∉ Nat.toDigitsCore base fuel n digits := by
  induction fuel generalizing n digits with
  | zero => exact h
  | succ fuel ih =>
    have hdigits : '\n' ∉ Nat.digitChar (n % base) :: digits :=
      List.not_mem_cons_of_ne_of_not_mem (digitChar_ne_feed _).symm h
    rw [Nat.toDigitsCore]
    split
    next => exact hdigits
    next => exact ih hdigits

theorem notMem_quoteChar (c : Char) : '\n' ∉ quoteChar c := by
  unfold quoteChar
  split
  case h_7 _ _ _ _ hfeed _ _ =>
    split
    next => exact fun hmem => hfeed (List.mem_singleton.1 hmem).symm
    next =>
      have hdigits : '\n' ∉ hexDigits c.toNat := notMem_toDigitsCore List.not_mem_nil
      simp [codePointEscape, hdigits]
  all_goals decide

theorem oneLine_quoted (s : String) : OneLine (quoted s) := by
  simp [OneLine, quoted, notMem_quoteChar]

end BusDoc.Text
