import BusDoc.Text.LetterTable

/-!
# Letters, digits and case

The ASCII classes used by identifiers, and the Unicode classes and lower-case mapping used to cut
names into words. On ASCII the two agree (`isUpper_ascii` and its neighbours).
-/

namespace BusDoc.Text

/-- Some run of the table holds the code point. -/
def inRuns (table : List (Nat × Nat × Nat)) (n : Nat) : Bool :=
  table.any fun (first, last, step) => first ≤ n && n ≤ last && (n - first) % step == 0

/-- Some range of the table holds the code point. -/
def inRanges (table : List (Nat × Nat)) (n : Nat) : Bool :=
  table.any fun (first, last) => first ≤ n && n ≤ last

/-- A code point of ASCII. -/
def isAscii (c : Char) : Bool := c.toNat < 128

/-- A capital letter: `A` to `Z`. -/
def isAsciiUpper (c : Char) : Bool := 'A' ≤ c && c ≤ 'Z'

/-- A small letter: `a` to `z`. -/
def isAsciiLower (c : Char) : Bool := 'a' ≤ c && c ≤ 'z'

/-- A digit: `0` to `9`. -/
def isAsciiDigit (c : Char) : Bool := '0' ≤ c && c ≤ '9'

/-- A letter of ASCII. -/
def isAsciiAlpha (c : Char) : Bool := isAsciiUpper c || isAsciiLower c

/-- A letter or digit of ASCII. -/
def isAsciiAlnum (c : Char) : Bool := isAsciiAlpha c || isAsciiDigit c

/-- A character that an identifier may start with. -/
def isIdentStart (c : Char) : Bool := isAsciiAlpha c || c == '_'

/-- A character that an identifier may go on with. -/
def isIdentRest (c : Char) : Bool := isAsciiAlnum c || c == '_'

/-- The small letter of an ASCII capital; any other character is kept. -/
def asciiLower (c : Char) : Char := if isAsciiUpper c then Char.ofNat (c.toNat + 32) else c

/-- The capital of a small ASCII letter; any other character is kept. -/
def asciiUpper (c : Char) : Char := if isAsciiLower c then Char.ofNat (c.toNat - 32) else c

/-- A character of property `Uppercase`. -/
def isUpper (c : Char) : Bool :=
  if isAscii c then isAsciiUpper c else inRuns LetterTable.upper c.toNat

/-- A character of property `Lowercase`. -/
def isLower (c : Char) : Bool :=
  if isAscii c then isAsciiLower c else inRuns LetterTable.lower c.toNat

/-- An alphabetic character or one of a number category. -/
def isAlnum (c : Char) : Bool :=
  if isAscii c then isAsciiAlnum c else inRanges LetterTable.alnum c.toNat

/-- The lower-case mapping of one character. Only the dotted capital I (U+0130) maps to two
characters; a character without a mapping is kept. -/
def toLower (c : Char) : List Char :=
  if isAscii c then [asciiLower c]
  else if c.toNat == 0x130 then ['i', Char.ofNat 0x307]
  else match LetterTable.toLower.find? fun (first, last, step, _) =>
      first ≤ c.toNat && c.toNat ≤ last && (c.toNat - first) % step == 0 with
    | some (_, _, _, shift) => [Char.ofNat (c.toNat + shift).toNat]
    | none => [c]

theorem isUpper_ascii {c : Char} (h : isAscii c = true) : isUpper c = isAsciiUpper c := by
  simp [isUpper, h]

theorem isLower_ascii {c : Char} (h : isAscii c = true) : isLower c = isAsciiLower c := by
  simp [isLower, h]

theorem isAlnum_ascii {c : Char} (h : isAscii c = true) : isAlnum c = isAsciiAlnum c := by
  simp [isAlnum, h]

theorem toLower_ascii {c : Char} (h : isAscii c = true) : toLower c = [asciiLower c] := by
  simp [toLower, h]

end BusDoc.Text
