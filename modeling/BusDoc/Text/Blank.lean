/-!
# Blanks and trimming

Text is read as a list of characters. A *blank* is a character of Unicode's `White_Space`; an
*indent* is a space or a tab, the only blanks that count as indentation.

* `dropEndWhile_idem`: cutting a text at its end twice is cutting it once.
* `trimEnd_append_singleton`: a text that ends in a non-blank is its own right trim.
-/

namespace BusDoc.Text

/-- A character of property `White_Space`. -/
def isBlank (c : Char) : Bool :=
  let n := c.toNat
  (9 ≤ n && n ≤ 13) || n == 0x20 || n == 0x85 || n == 0xA0 || n == 0x1680 ||
    (0x2000 ≤ n && n ≤ 0x200A) || n == 0x2028 || n == 0x2029 || n == 0x202F || n == 0x205F ||
    n == 0x3000

/-- A space or a tab. -/
def isIndent (c : Char) : Bool := c == ' ' || c == '\t'

/-- Every character of the text is a blank. -/
def allBlank (s : List Char) : Bool := s.all isBlank

/-- The text without its longest run of `p` at the end. -/
def dropEndWhile (p : Char → Bool) (s : List Char) : List Char := (s.reverse.dropWhile p).reverse

/-- The text without the blanks it starts with. -/
def trimStart (s : List Char) : List Char := s.dropWhile isBlank

/-- The text without the blanks it ends with. -/
def trimEnd (s : List Char) : List Char := dropEndWhile isBlank s

/-- The text without the blanks at its two ends. -/
def trim (s : List Char) : List Char := trimEnd (trimStart s)

/-- The text without the characters of `p` at its two ends. -/
def trimBoth (p : Char → Bool) (s : List Char) : List Char := dropEndWhile p (s.dropWhile p)

/-- The number of spaces and tabs a line starts with. -/
def indentOf (s : List Char) : Nat := (s.takeWhile isIndent).length

theorem isBlank_of_isIndent {c : Char} (h : isIndent c = true) : isBlank c = true := by
  simp only [isIndent, Bool.or_eq_true, beq_iff_eq] at h
  rcases h with rfl | rfl <;> rfl

theorem dropEndWhile_nil (p : Char → Bool) : dropEndWhile p [] = [] := rfl

theorem dropEndWhile_append_singleton (p : Char → Bool) (s : List Char) (c : Char) :
    dropEndWhile p (s ++ [c]) = if p c then dropEndWhile p s else s ++ [c] := by
  by_cases h : p c <;> simp [dropEndWhile, h]

theorem trimEnd_append_singleton {s : List Char} {c : Char} (h : isBlank c = false) :
    trimEnd (s ++ [c]) = s ++ [c] := by
  simp [trimEnd, dropEndWhile_append_singleton, h]

theorem dropEndWhile_idem (p : Char → Bool) (s : List Char) :
    dropEndWhile p (dropEndWhile p s) = dropEndWhile p s := by
  simp only [dropEndWhile, List.reverse_reverse]
  congr 1
  generalize s.reverse = t
  induction t with
  | nil => rfl
  | cons c t ih => by_cases h : p c <;> simp [h, ih]

end BusDoc.Text
