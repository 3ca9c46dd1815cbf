import BusDoc.Text.Blank
import BusDoc.Text.Letter

/-!
# Characters of identifiers

* `plain_of_isIdentRest`: a character of an identifier is no blank and no parenthesis.
* `forall_isAscii`: a fact about the ASCII characters is one about 128 code points.
* `isAsciiAlnum_asciiLower`, `isIdentRest_asciiUpper`: the small letter of a letter or digit is a
  letter or digit, and the capital of a character of an identifier is one of an identifier.
-/

namespace BusDoc.Text

theorem le_iff_toNat_le {a b : Char} : a ≤ b ↔ a.toNat ≤ b.toNat := by
  rw [Char.le_def, UInt32.le_iff_toNat_le]
  rfl

theorem isIdentRest_of_isAsciiUpper {c : Char} (h : isAsciiUpper c = true) :
    isIdentRest c = true := by
  simp [isIdentRest, isAsciiAlnum, isAsciiAlpha, h]

theorem toNat_of_isIdentRest {c : Char} (h : isIdentRest c = true) :
    48 ≤ c.toNat ∧ c.toNat ≤ 122 := by
  simp only [isIdentRest, isAsciiAlnum, isAsciiAlpha, isAsciiUpper, isAsciiLower, isAsciiDigit,
    Bool.or_eq_true, Bool.and_eq_true, decide_eq_true_eq, beq_iff_eq, le_iff_toNat_le] at h
  obtain ((h | h) | h) | rfl := h
  · exact ⟨Nat.le_trans (by decide) h.1, Nat.le_trans h.2 (by decide)⟩
  · exact ⟨Nat.le_trans (by decide) h.1, Nat.le_trans h.2 (by decide)⟩
  · exact ⟨Nat.le_trans (by decide) h.1, Nat.le_trans h.2 (by decide)⟩
  · decide

theorem isAscii_of_isIdentRest {c : Char} (h : isIdentRest c = true) : isAscii c = true := by
  have hhigh := (toNat_of_isIdentRest h).2
  rw [isAscii, decide_eq_true_eq]
  omega

/-- The characters of names are no blanks and no parentheses. -/
theorem plain_of_isIdentRest {c : Char} (h : isIdentRest c = true) :
    isBlank c = false ∧ c ≠ '(' ∧ c ≠ '\n' := by
  refine ⟨?_, ?_, ?_⟩
  · obtain ⟨hlo, hhi⟩ := toNat_of_isIdentRest h
    simp only [isBlank, Bool.or_eq_false_iff, Bool.and_eq_false_iff, decide_eq_false_iff_not,
      beq_eq_false_iff_ne]
    omega
  · rintro rfl
    cases h
  · rintro rfl
    cases h

theorem isIdentRest_of_isAsciiAlnum {c : Char} (h : isAsciiAlnum c = true) :
    isIdentRest c = true := by
  simp [isIdentRest, h]

theorem isAscii_of_isAsciiAlnum {c : Char} (h : isAsciiAlnum c = true) : isAscii c = true :=
  isAscii_of_isIdentRest (isIdentRest_of_isAsciiAlnum h)

/-- What holds of the first 128 code points holds of every ASCII character. -/
theorem forall_isAscii {P : Char → Prop} (h : ∀ n < 128, P (Char.ofNat n)) {c : Char}
    (hc : isAscii c = true) : P c := by
  have hP := h c.toNat (by simpa [isAscii] using hc)
  rwa [Char.ofNat_toNat] at hP

theorem isAsciiAlnum_asciiLower {c : Char} (h : isAsciiAlnum c = true) :
    isAsciiAlnum (asciiLower c) = true :=
  forall_isAscii (P := fun c => isAsciiAlnum c = true → isAsciiAlnum (asciiLower c) = true)
    (by decide) (isAscii_of_isAsciiAlnum h) h

theorem isIdentRest_asciiLower {c : Char} (h : isAsciiAlnum c = true) :
    isIdentRest (asciiLower c) = true := isIdentRest_of_isAsciiAlnum (isAsciiAlnum_asciiLower h)

theorem isIdentRest_asciiUpper {c : Char} (h : isIdentRest c = true) :
    isIdentRest (asciiUpper c) = true :=
  forall_isAscii (P := fun c => isIdentRest c = true → isIdentRest (asciiUpper c) = true)
    (by decide) (isAscii_of_isIdentRest h) h

end BusDoc.Text
