import BusDoc.Text.Blank
import BusDoc.Text.Letter

/-!
# Names in generated source

Member names of the documentation become identifiers in snake case: `MediaTransport1` becomes
`media_transport1`, `UUIDs` becomes `uuids`, `IOCapability` becomes `io_capability`. Reserved
words get an underscore behind them.
-/

namespace BusDoc.Binding

open Text

/-- The reserved words of the generated source. -/
def reservedWords : List String := [
  "abstract", "as", "async", "await", "become", "box", "break", "const", "continue", "crate", "do",
  "dyn", "else", "enum", "extern", "false", "final", "fn", "for", "gen", "if", "impl", "in", "let",
  "loop", "macro", "match", "mod", "move", "mut", "override", "priv", "pub", "ref", "return",
  "self", "Self", "static", "struct", "super", "trait", "true", "try", "type", "typeof", "unsafe",
  "unsized", "use", "virtual", "where", "while", "yield"]

/-- The word is reserved. -/
def isReserved (s : List Char) : Bool := reservedWords.any fun w => w.toList == s

/-- An identifier: letters, digits and underscores of ASCII, no digit first, and not a single
underscore. -/
def isIdentifier : List Char → Bool
  | [] => false
  | c :: s => isIdentStart c && s.all isIdentRest && !(c == '_' && s.isEmpty)

/-- The text behind a capital is the `s` of a plural: no small letter follows it. -/
def isPlural (rest : List Char) : Bool :=
  match rest with
  | 's' :: c :: _ => !isLower c
  | ['s'] => true
  | _ => false

/-- A capital begins a new word when a small letter or digit stands before it, or another capital
that does not belong to the same word: then a small letter follows, and not the `s` of a plural. -/
def beginsWord (previous : Option Char) (rest : List Char) : Bool :=
  match previous with
  | none => false
  | some p =>
    if isLower p || isAsciiDigit p then true
    else if isUpper p then (rest.head?.map isLower).getD false && !isPlural rest
    else false

/-- The rest of a name in snake case, after the character `previous` of the name and the last
character `written`. -/
def snakeFrom : (previous written : Option Char) → List Char → List Char
  | _, _, [] => []
  | previous, written, c :: s =>
    if isUpper c then
      let gap := if beginsWord previous s && written != some '_' then ['_'] else []
      let small := toLower c
      gap ++ small ++ snakeFrom (some c) (small.getLast?.or written) s
    else if isAlnum c then c :: snakeFrom (some c) (some c) s
    else if written.isSome && written != some '_' then '_' :: snakeFrom (some c) (some '_') s
    else snakeFrom (some c) written s

/-- The name in snake case: its words in small letters, joined by single underscores. -/
def snakeCase (s : List Char) : List Char := dropEndWhile (· == '_') (snakeFrom none none s)

/-- The name in snake case, in capitals. -/
def upperSnakeCase (s : List Char) : List Char := (snakeCase s).map asciiUpper

/-- The identifier with an underscore behind it if it is reserved. -/
def unreserve (s : List Char) : List Char := if isReserved s then s ++ ['_'] else s

/-- The identifier of a field, argument or function. -/
def fieldIdent (name : List Char) : List Char := unreserve (snakeCase name)

/-- The identifier of a module: small letters, digits and underscores, no digit first. -/
def moduleIdent (segment : List Char) : List Char :=
  let ident := segment.map fun c => if isAsciiAlnum c then asciiLower c else '_'
  let ident := if (ident.head?.map isAsciiDigit).getD false then '_' :: ident else ident
  unreserve ident

end BusDoc.Binding
