import BusDoc.Text.Letter
import BusDoc.Text.PrintTable

/-!
# Quoted literals

A text between double quotes, as it stands in messages and in generated source. Backslash and
double quote are escaped, `\t`, `\r`, `\n` and `\0` have their short forms, and every other
character that has no glyph of its own or joins the character before it is written as its code
point in braces.
-/

namespace BusDoc.Text

/-- The hexadecimal digits of a number, without leading zeros. -/
def hexDigits (n : Nat) : List Char := Nat.toDigits 16 n

/-- A character that is written as itself. -/
def isPrintable (c : Char) : Bool :=
  if isAscii c then 0x20 ≤ c.toNat && c.toNat < 0x7F
  else !inRanges PrintTable.joining c.toNat && !inRanges PrintTable.blank c.toNat

/-- A character by its code point. -/
def codePointEscape (c : Char) : List Char := ['\\', 'u', '{'] ++ hexDigits c.toNat ++ ['}']

/-- One character inside a quoted literal. -/
def quoteChar (c : Char) : List Char :=
  match c with
  | '\x00' => ['\\', '0']
  | '\t' => ['\\', 't']
  | '\r' => ['\\', 'r']
  | '\n' => ['\\', 'n']
  | '\\' => ['\\', '\\']
  | '"' => ['\\', '"']
  | c => if isPrintable c then [c] else codePointEscape c

/-- The literal of a text. -/
def quoted (s : String) : String := String.ofList ('"' :: s.toList.flatMap quoteChar ++ ['"'])

end BusDoc.Text
