import BusDoc.Text.Letter
import BusDoc.Toml.Scalar
import BusDoc.Toml.Strings
import BusDoc.Toml.Table

/-!
# Reading TOML

A document is a list of statements, one a line: a key with its value, or the header of a table.
`Toml.parse?` reads the statements and builds the table of the document from them.
-/

namespace BusDoc.Toml

open Text

/-- The number of arrays and tables that may be open inside each other, and the greatest number of
parts of a dotted key. -/
def maxDepth : Nat := 79

/-! ## Keys -/

/-- A character of a bare key. -/
def isKeyChar (c : Char) : Bool := isAsciiAlnum c || c == '_' || c == '-'

/-- The part of a key that a text starts with, and the rest. -/
def keyPart? (s : List Char) : Option (String × List Char) :=
  match s with
  | '"' :: rest => (basicText? 0 rest).map fun (t, rest) => (String.ofList t, rest)
  | '\'' :: rest => (literalText? rest).map fun (t, rest) => (String.ofList t, rest)
  | _ =>
    let word := s.takeWhile isKeyChar
    if word.isEmpty then none else some (String.ofList word, s.dropWhile isKeyChar)

/-- The parts of a key, of which the last stands apart, with spaces around them; and the rest. -/
def keyParts? : (fuel : Nat) → List Char → Option (List String × String × List Char)
  | 0, _ => none
  | fuel + 1, s => do
    let (part, rest) ← keyPart? (skipSpace s)
    match skipSpace rest with
    | '.' :: rest => do
      let (path, last, rest) ← keyParts? fuel rest
      return (part :: path, last, rest)
    | rest => return ([], part, rest)

/-- The key that a text starts with, and the rest. -/
def key? (s : List Char) : Option (List String × String × List Char) := do
  let (path, last, rest) ← keyParts? (s.length + 1) s
  if path.length < maxDepth then return (path, last, rest) else none

/-! ## Values -/

/-- What follows a comment, which reaches to the end of its line. -/
def skipComment (s : List Char) : List Char :=
  match s with
  | '#' :: rest => rest.dropWhile isLineChar
  | _ => s

/-- What follows the blank lines, comments and spaces that may stand between the items of an
array. -/
def skipLines? : (fuel : Nat) → List Char → Option (List Char)
  | 0, _ => none
  | fuel + 1, s =>
    match skipSpace s with
    | '#' :: rest => (lineEnd? (skipComment ('#' :: rest))).bind (skipLines? fuel)
    | rest =>
      match lineEnd? rest with
      | some rest => skipLines? fuel rest
      | none => some rest

/-- The value of a word, and the rest. -/
def word? (s : List Char) : Option (Toml × List Char) :=
  ((after? "true".toList s).map fun rest => (boolean true, rest)).or
    ((after? "false".toList s).map fun rest => (boolean false, rest))

mutual

/-- The value that a text starts with, and the rest, read in at most `fuel` steps with at most
`depth` more arrays and tables open. -/
def value? : (fuel depth : Nat) → List Char → Option (Toml × List Char)
  | 0, _, _ => none
  | fuel + 1, depth, s =>
    match s with
    | '[' :: rest =>
      match depth with
      | 0 => none
      | depth + 1 => do
        let (vs, rest) ← items? fuel depth rest
        return (array vs, rest)
    | '\x7b' :: rest =>
      match depth with
      | 0 => none
      | depth + 1 =>
        match skipSpace rest with
        | '\x7d' :: rest => some (table .inline [], rest)
        | _ => do
          let (entries, rest) ← entries? fuel depth [] rest
          return (table .inline entries, rest)
    | '"' :: _ => (string? s).map fun (t, rest) => (text (String.ofList t), rest)
    | '\'' :: _ => (string? s).map fun (t, rest) => (text (String.ofList t), rest)
    | _ => ((word? s).or (date? s)).or (number? s)

/-- The items of an array up to the closing bracket; a comma may follow the last. -/
def items? : (fuel depth : Nat) → List Char → Option (List Toml × List Char)
  | 0, _, _ => none
  | fuel + 1, depth, s => do
    match ← skipLines? (s.length + 1) s with
    | ']' :: rest => return ([], rest)
    | s => do
      let (v, rest) ← value? fuel depth s
      match ← skipLines? (rest.length + 1) rest with
      | ',' :: rest => do
        let (vs, rest) ← items? fuel depth rest
        return (v :: vs, rest)
      | ']' :: rest => return ([v], rest)
      | _ => none

/-- The entries of a table written as a value, added to those before them, up to the closing
brace. -/
def entries? : (fuel depth : Nat) → (before : List (String × Toml)) → List Char →
    Option (List (String × Toml) × List Char)
  | 0, _, _, _ => none
  | fuel + 1, depth, before, s => do
    let (path, last, rest) ← key? s
    let rest ← after? ['='] rest
    let (v, rest) ← value? fuel depth (skipSpace rest)
    let entries ← addValue path last v before
    match skipSpace rest with
    | ',' :: rest => entries? fuel depth entries rest
    | '\x7d' :: rest => return (entries, rest)
    | _ => none

end

/-! ## Documents -/

/-- What follows the end of a line: nothing else than spaces and a comment may stand before it. -/
def lineRest? (s : List Char) : Option (List Char) :=
  match skipComment (skipSpace s) with
  | [] => some []
  | rest => lineEnd? rest

/-- The statement that a text starts with, and what follows its line. -/
def statement? (s : List Char) : Option (Statement × List Char) :=
  match s with
  | '[' :: '[' :: rest => do
    let (path, last, rest) ← key? rest
    let rest ← after? [']', ']'] rest
    return (.element path last, ← lineRest? rest)
  | '[' :: rest => do
    let (path, last, rest) ← key? rest
    let rest ← after? [']'] rest
    return (.header path last, ← lineRest? rest)
  | _ => do
    let (path, last, rest) ← key? s
    let rest := skipSpace (← after? ['='] rest)
    let (v, rest) ← value? (2 * rest.length + 2) maxDepth rest
    return (.entry path last v, ← lineRest? rest)

/-- The statements of a text. -/
def statements? : (fuel : Nat) → List Char → Option (List Statement)
  | 0, _ => none
  | fuel + 1, s =>
    match skipSpace s with
    | [] => some []
    | '#' :: rest => (lineRest? ('#' :: rest)).bind (statements? fuel)
    | c :: rest =>
      match lineEnd? (c :: rest) with
      | some rest => statements? fuel rest
      | none => do
        let (statement, rest) ← statement? (c :: rest)
        let statements ← statements? fuel rest
        return statement :: statements

/-- The entries of the table that a document is. A mark of the byte order may stand before it. -/
def parse? (s : String) : Option (List (String × Toml)) := do
  let body := match s.toList with
    | '\ufeff' :: rest => rest
    | cs => cs
  build? (← statements? (body.length + 1) body)

end BusDoc.Toml
