import BusDoc.Text.Blank

/-!
# Texts by bytes

A text takes up bytes, and an index that counts bytes can lie behind its end or inside a character.
Where it does neither, the text can be cut there.
-/

namespace BusDoc.Text

/-- The text cut behind its first `n` bytes, if a character ends there. -/
def cutAt? : (n : Nat) → List Char → Option (List Char × List Char)
  | 0, s => some ([], s)
  | _ + 1, [] => none
  | n + 1, c :: s =>
    if c.utf8Size ≤ n + 1 then
      (cutAt? (n + 1 - c.utf8Size) s).map fun (front, rest) => (c :: front, rest)
    else none

/-- The text from byte `n` on. -/
def sliceFrom? (n : Nat) (s : List Char) : Option (List Char) := (cutAt? n s).map Prod.snd

/-- The text up to byte `n`. -/
def sliceTo? (n : Nat) (s : List Char) : Option (List Char) := (cutAt? n s).map Prod.fst

/-! ## Searches -/

/-- The byte of a space or a tab. -/
def isIndentByte (b : UInt8) : Bool := b == 0x20 || b == 0x09

/-- The number of bytes of spaces and tabs that a text starts with. -/
def leadingBytes (s : List Char) : Nat :=
  ((s.flatMap String.utf8EncodeChar).takeWhile isIndentByte).length

/-- The characters of a text with the indices at which they start, the first of them starting at
the given one. -/
def charIndices : (start : Nat) → List Char → List (Nat × Char)
  | _, [] => []
  | start, c :: s => (start, c) :: charIndices (start + c.utf8Size) s

/-- The index of the first character of the kind. -/
def findByte? (p : Char → Bool) (s : List Char) : Option Nat :=
  ((charIndices 0 s).find? fun e => p e.2).map Prod.fst

/-- The index of the last blank outside braces among characters with their indices, `found` being
that of the last one before them. -/
def lastTopBlank? : (depth : Nat) → (found : Option Nat) → List (Nat × Char) → Option Nat
  | _, found, [] => found
  | depth, found, (i, c) :: rest =>
    if c = '{' then lastTopBlank? (depth + 1) found rest
    else if c = '}' then lastTopBlank? (depth - 1) found rest
    else if isBlank c && depth = 0 then lastTopBlank? depth (some i) rest
    else lastTopBlank? depth found rest

end BusDoc.Text
