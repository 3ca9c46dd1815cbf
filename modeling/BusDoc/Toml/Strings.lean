import BusDoc.Json.Parser
import BusDoc.Text.Search

/-!
# Strings in TOML

The four forms of strings. The readers start behind the opening quotes and give the text and what
follows the closing quotes. A string on several lines counts every line end as one line feed.
-/

namespace BusDoc.Toml

open Text

/-- A space or a tab. -/
def isSpace (c : Char) : Bool := c == ' ' || c == '\t'

/-- The text without the spaces and tabs it starts with. -/
def skipSpace (s : List Char) : List Char := s.dropWhile isSpace

/-- A character that may stand on a line: a tab, or any but the control characters of ASCII. -/
def isLineChar (c : Char) : Bool := c == '\t' || (0x20 ≤ c.toNat && c.toNat != 0x7F)

/-- What follows a line end, if the text starts with one. -/
def lineEnd? : List Char → Option (List Char)
  | '\n' :: s => some s
  | '\r' :: '\n' :: s => some s
  | _ => none

/-- The text without a line end it starts with. -/
def skipLineEnd (s : List Char) : List Char := (lineEnd? s).getD s

/-- The number of characters of the spaces, tabs and line ends that a text starts with. -/
def spaceRun : List Char → Nat
  | [] => 0
  | '\r' :: '\n' :: s => spaceRun s + 2
  | c :: s => if isSpace c || c == '\n' then spaceRun s + 1 else 0

/-! ## Escapes -/

/-- The character of a code point in hexadecimal digits. -/
def codePoint? (digits : List Char) : Option Char := do
  let values ← digits.mapM Json.hexValue?
  let n := values.foldl (fun n d => n * 16 + d) 0
  if n < 0xD800 ∨ (0xE000 ≤ n ∧ n < 0x110000) then some (Char.ofNat n) else none

/-- The character of the escape that follows a backslash, and the length of the escape. -/
def escape? : List Char → Option (Char × Nat)
  | 'b' :: _ => some ('\x08', 1)
  | 't' :: _ => some ('\t', 1)
  | 'n' :: _ => some ('\n', 1)
  | 'f' :: _ => some ('\x0c', 1)
  | 'r' :: _ => some ('\r', 1)
  | '"' :: _ => some ('"', 1)
  | '\\' :: _ => some ('\\', 1)
  | 'u' :: s => if s.length < 4 then none else (codePoint? (s.take 4)).map fun c => (c, 5)
  | 'U' :: s => if s.length < 8 then none else (codePoint? (s.take 8)).map fun c => (c, 9)
  | _ => none

/-- The length of the space that a backslash at the end of a line takes away. -/
def foldedRun? (s : List Char) : Option Nat :=
  (lineEnd? (skipSpace s)).map fun _ => spaceRun s

/-! ## Forms -/

/-- The text of a string in double quotes. The first `skip` characters were read already. -/
def basicText? : (skip : Nat) → List Char → Option (List Char × List Char)
  | _, [] => none
  | skip + 1, _ :: s => basicText? skip s
  | 0, c :: s =>
    if c = '"' then some ([], s)
    else if c = '\\' then do
      let (x, n) ← escape? s
      let (text, rest) ← basicText? n s
      return (x :: text, rest)
    else if isLineChar c then (basicText? 0 s).map fun (text, rest) => (c :: text, rest)
    else none

/-- The quotes in front of the closing ones, two at most, and what follows these. -/
def closingQuotes (quote : Char) : List Char → List Char × List Char
  | a :: b :: s =>
    if a = quote ∧ b = quote then ([a, b], s)
    else if a = quote then ([a], b :: s)
    else ([], a :: b :: s)
  | [a] => if a = quote then ([a], []) else ([], [a])
  | [] => ([], [])

/-- The text of a string on several lines in double quotes. -/
def basicLines? : (skip : Nat) → List Char → Option (List Char × List Char)
  | _, [] => none
  | skip + 1, _ :: s => basicLines? skip s
  | 0, c :: s =>
    if c = '"' then
      match after? ['"', '"'] s with
      | some rest => some (closingQuotes '"' rest)
      | none => (basicLines? 0 s).map fun (text, rest) => (c :: text, rest)
    else if c = '\\' then
      match foldedRun? s with
      | some n => basicLines? n s
      | none => do
        let (x, n) ← escape? s
        let (text, rest) ← basicLines? n s
        return (x :: text, rest)
    else if isLineChar c || c = '\n' then
      (basicLines? 0 s).map fun (text, rest) => (c :: text, rest)
    else if c = '\r' ∧ s.head? = some '\n' then basicLines? 0 s
    else none

/-- The text of a string in single quotes. -/
def literalText? : List Char → Option (List Char × List Char)
  | [] => none
  | c :: s =>
    if c = '\'' then some ([], s)
    else if isLineChar c then (literalText? s).map fun (text, rest) => (c :: text, rest)
    else none

/-- The text of a string on several lines in single quotes. -/
def literalLines? : List Char → Option (List Char × List Char)
  | [] => none
  | c :: s =>
    if c = '\'' then
      match after? ['\'', '\''] s with
      | some rest => some (closingQuotes '\'' rest)
      | none => (literalLines? s).map fun (text, rest) => (c :: text, rest)
    else if isLineChar c || c = '\n' then
      (literalLines? s).map fun (text, rest) => (c :: text, rest)
    else if c = '\r' ∧ s.head? = some '\n' then literalLines? s
    else none

/-- The string that a text starts with, if it starts with a quote. -/
def string? : List Char → Option (List Char × List Char)
  | '"' :: '"' :: '"' :: s => basicLines? 0 (skipLineEnd s)
  | '\'' :: '\'' :: '\'' :: s => literalLines? (skipLineEnd s)
  | '"' :: s => basicText? 0 s
  | '\'' :: s => literalText? s
  | _ => none

end BusDoc.Toml
