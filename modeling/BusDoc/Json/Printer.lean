import BusDoc.Json.Value

/-!
# Writing JSON

Values on one line (`compact`) or over several with two spaces of indentation (`pretty`). In
strings, quotes, backslashes and control characters are escaped and everything else stands for
itself.
-/

namespace BusDoc.Json

/-- A hexadecimal digit. -/
def hexDigit (n : Nat) : Char := (Nat.toDigits 16 (n % 16)).headD '0'

/-- One character inside a string. -/
def escapeChar (c : Char) : List Char :=
  match c with
  | '"' => ['\\', '"']
  | '\\' => ['\\', '\\']
  | '\n' => ['\\', 'n']
  | '\r' => ['\\', 'r']
  | '\t' => ['\\', 't']
  | c =>
    if c.toNat = 8 then ['\\', 'b']
    else if c.toNat = 12 then ['\\', 'f']
    else if c.toNat < 0x20 then
      ['\\', 'u', '0', '0', hexDigit (c.toNat / 16), hexDigit c.toNat]
    else [c]

/-- A string with its quotes. -/
def quoteText (s : String) : List Char := '"' :: s.toList.flatMap escapeChar ++ ['"']

mutual

/-- A value on one line. -/
def compactChars : Json → List Char
  | null => "null".toList
  | bool b => (if b then "true" else "false").toList
  | integer n => (toString n).toList
  | decimal literal => literal.toList
  | text s => quoteText s
  | array items => '[' :: compactItems items ++ [']']
  | object members => '\x7b' :: compactMembers members ++ ['\x7d']
  | unreadable => "null".toList

/-- The items of an array on one line. -/
def compactItems : List Json → List Char
  | [] => []
  | [v] => compactChars v
  | v :: w :: rest => compactChars v ++ ',' :: compactItems (w :: rest)

/-- The members of an object on one line. -/
def compactMembers : List (String × Json) → List Char
  | [] => []
  | [(k, v)] => quoteText k ++ ':' :: compactChars v
  | (k, v) :: m :: rest => quoteText k ++ ':' :: compactChars v ++ ',' :: compactMembers (m :: rest)

end

/-- A line break and the indentation of a level. -/
def newline (level : Nat) : List Char := '\n' :: List.replicate (2 * level) ' '

mutual

/-- A value over several lines, its own line being at the given level. -/
def prettyChars (level : Nat) : Json → List Char
  | null => "null".toList
  | bool b => (if b then "true" else "false").toList
  | integer n => (toString n).toList
  | decimal literal => literal.toList
  | text s => quoteText s
  | array [] => ['[', ']']
  | array (v :: rest) => '[' :: prettyItems (level + 1) (v :: rest) ++ newline level ++ [']']
  | object [] => ['\x7b', '\x7d']
  | object (m :: rest) =>
    '\x7b' :: prettyMembers (level + 1) (m :: rest) ++ newline level ++ ['\x7d']
  | unreadable => "null".toList

/-- The items of an array, each on a line of its own. -/
def prettyItems (level : Nat) : List Json → List Char
  | [] => []
  | [v] => newline level ++ prettyChars level v
  | v :: w :: rest => newline level ++ prettyChars level v ++ ',' :: prettyItems level (w :: rest)

/-- The members of an object, each on a line of its own. -/
def prettyMembers (level : Nat) : List (String × Json) → List Char
  | [] => []
  | [(k, v)] => newline level ++ quoteText k ++ ':' :: ' ' :: prettyChars level v
  | (k, v) :: m :: rest =>
    newline level ++ quoteText k ++ ':' :: ' ' :: prettyChars level v ++
      ',' :: prettyMembers level (m :: rest)

end

/-- A value on one line. -/
def compact (v : Json) : String := String.ofList (compactChars v)

/-- A value over several lines. -/
def pretty (v : Json) : String := String.ofList (prettyChars 0 v)

end BusDoc.Json
