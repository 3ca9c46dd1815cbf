import BusDoc.Toml.Value

/-!
# Writing TOML

A string is written in the plainest form that holds it: in double quotes if nothing in it needs an
escape, else in single quotes, else in three quotes of either kind, and with escapes if no other
form will do.
-/

namespace BusDoc.Toml

/-! ## Forms of strings -/

/-- The character can only be written as an escape: a control character of ASCII other than a tab
and a line feed. -/
def needsEscape (c : Char) : Bool :=
  (c.toNat < 0x20 && c != '\t' && c != '\n') || c.toNat == 0x7F

/-- The length of the longest run of a character; `run` of it stand right before the text. -/
def longestRun (c : Char) : (run : Nat) → List Char → Nat
  | run, [] => run
  | run, d :: s => if d = c then longestRun c (run + 1) s else max run (longestRun c 0 s)

/-- The four forms of strings. -/
inductive StringForm
  | basic | literal | basicLines | literalLines
  deriving DecidableEq, Repr

namespace StringForm

/-- The quotes at both ends. -/
def quotes : StringForm → List Char
  | basic => ['"']
  | literal => ['\'']
  | basicLines => ['"', '"', '"']
  | literalLines => ['\'', '\'', '\'']

/-- A string of the form may stand on several lines. -/
def hasLines : StringForm → Bool
  | basicLines | literalLines => true
  | _ => false

/-- A string of the form knows escapes. -/
def hasEscapes : StringForm → Bool
  | basic | basicLines => true
  | _ => false

end StringForm

/-- The form in which a text is written. -/
def formOf (s : List Char) : StringForm :=
  let control := s.any needsEscape
  let backslash := s.contains '\\'
  let newline := s.contains '\n'
  let doubles := longestRun '"' 0 s
  let singles := longestRun '\'' 0 s
  if !control && !backslash && doubles == 0 && !newline then .basic
  else if !control && singles == 0 && !newline then .literal
  else if !control && !backslash && doubles ≤ 2 then .basicLines
  else if !control && singles ≤ 2 then .literalLines
  else if newline then .basicLines
  else .basic

/-- The two hexadecimal digits of a number below 256. -/
def hexPair (n : Nat) : List Char :=
  let digits := (Nat.toDigits 16 n).map Char.toUpper
  List.replicate (2 - digits.length) '0' ++ digits

/-- A character in a string with escapes, in which line feeds and up to `quotes` quotes in a row
may stand; `run` quotes stand right before it. -/
def escapeChar (lines : Bool) (quotes run : Nat) (c : Char) : List Char :=
  if c = '"' then if run < quotes then ['"'] else ['\\', '"']
  else if c = '\x08' then ['\\', 'b']
  else if c = '\t' then ['\\', 't']
  else if c = '\n' then if lines then ['\n'] else ['\\', 'n']
  else if c = '\x0c' then ['\\', 'f']
  else if c = '\r' then ['\\', 'r']
  else if c = '\\' then ['\\', '\\']
  else if needsEscape c then ['\\', 'u', '0', '0'] ++ hexPair c.toNat
  else [c]

/-- A text with escapes; `run` quotes stand right before it. -/
def escapeFrom (lines : Bool) (quotes : Nat) : (run : Nat) → List Char → List Char
  | _, [] => []
  | run, c :: s =>
    let next := if c = '"' ∧ run < quotes then run + 1 else 0
    escapeChar lines quotes run c ++ escapeFrom lines quotes next s

/-- A text as a string in a form. -/
def writeStringAs (form : StringForm) (s : List Char) : List Char :=
  let opening := if form.hasLines && s.contains '\n' then ['\n'] else []
  let body :=
    if form.hasEscapes then escapeFrom form.hasLines (if form.hasLines then 2 else 0) 0 s else s
  form.quotes ++ opening ++ body ++ form.quotes

/-- A text as a string. -/
def writeString (s : List Char) : List Char := writeStringAs (formOf s) s

/-! ## Settings -/

/-- A value that stands behind a key. -/
def writeValue : Toml → List Char
  | text s => writeString s.toList
  | boolean b => (if b then "true" else "false").toList
  | array items => ['['] ++ writeItems items ++ [']']
  | _ => []
where
  /-- Values with commas between them. -/
  writeItems : List Toml → List Char
    | [] => []
    | [v] => writeValue v
    | v :: vs => writeValue v ++ [',', ' '] ++ writeItems vs

/-- A key with its value, on a line. -/
def writeEntry (e : String × Toml) : List Char :=
  e.1.toList ++ [' ', '=', ' '] ++ writeValue e.2 ++ ['\n']

/-- A document of keys with their values. -/
def write (entries : List (String × Toml)) : String := String.ofList (entries.flatMap writeEntry)

end BusDoc.Toml
