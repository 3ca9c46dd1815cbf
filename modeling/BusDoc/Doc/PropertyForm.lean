import BusDoc.Api.Interface
import BusDoc.Doc.Paragraph
import BusDoc.Text.Letter

/-!
# Property blocks

A property is written `<type> <Name> [<flags>]` on one line, the flags being optional, and its
docs follow. Only the first line decides about type, name and flags. The mark `(optional)` and
whatever else stands behind the name moves to the front of the docs.
-/

namespace BusDoc.Doc

open Text

/-- The types that a property may have, those with braces apart. -/
def propertyTypes : List String :=
  ["dict", "boolean", "bool", "byte", "string", "int16", "uint16_t", "uint16", "int32", "uint32",
    "int64", "uint64", "double", "object", "variant", "fd"]

/-- The text up to the brace that closes an open one, and the rest. One more level of braces may
be `nested` inside; the line must not end before. -/
def closeBrace? : (nested : Bool) → List Char → Option (List Char × List Char)
  | _, [] => none
  | nested, c :: s =>
    if c = '\n' then none
    else if c = '{' then
      if nested then none else (closeBrace? true s).map fun (body, rest) => (c :: body, rest)
    else if c = '}' then
      if nested then (closeBrace? false s).map fun (body, rest) => (c :: body, rest)
      else some ([c], s)
    else (closeBrace? nested s).map fun (body, rest) => (c :: body, rest)

/-- A type with members in braces that the text starts with, and the rest. -/
def bracedType? (opening : String) (s : List Char) : Option (List Char × List Char) := do
  let inside ← after? opening.toList s
  let (body, rest) ← closeBrace? false inside
  return (opening.toList ++ body, rest)

/-- The type that the text starts with, and the rest. -/
def propertyType? (s : List Char) : Option (List Char × List Char) :=
  if startsWith "array\x7b".toList s then bracedType? "array\x7b" s
  else if startsWith "dict\x7b".toList s then bracedType? "dict\x7b" s
  else
    let word := s.takeWhile fun c => !isIndent c
    if propertyTypes.any fun t => t.toList == word then
      some (word, s.dropWhile fun c => !isIndent c)
    else none

/-- The three parts of the first line of a property block. -/
structure PropertyLine where
  type : List Char
  name : List Char
  flags : List Char
  deriving DecidableEq, Repr

/-- The parts of a line, if it has the form of a property: a type, blanks, and a name that starts
with a capital and goes on up to an opening bracket. -/
def propertyLine? (line : List Char) : Option PropertyLine := do
  let (type, rest) ← propertyType? (line.dropWhile isIndent)
  let name := rest.dropWhile isIndent
  if name.length < rest.length && (name.head?.map isAsciiUpper).getD false then
    return {
      type := type
      name := dropEndWhile isIndent (name.takeWhile (· ≠ '['))
      flags := name.dropWhile (· ≠ '[') }
  else none

/-- The mark of a property that may be missing. -/
def optionalMark : List Char := "(optional)".toList

/-- One flag of a bracketed list: it is cut at a closing bracket, and its case does not count. Of
`readonly` and `readwrite` the later one wins; anything else is passed over. -/
def addFlag (flags : FlagSet) (token : List Char) : FlagSet :=
  let word := (trim (token.takeWhile (· ≠ ']'))).map asciiLower
  if word = "readonly".toList then { flags with readWrite := false, readOnly := true }
  else if word = "readwrite".toList then { flags with readOnly := false, readWrite := true }
  else if word = "experimental".toList then { flags with experimental := true }
  else flags

/-- The flags of a bracketed list. -/
def parseFlags (raw : List Char) : FlagSet :=
  let inner := trimBoth (fun c => c == '[' || c == ']' || isBlank c) raw
  (splitOn ',' inner).foldl addFlag {}

/-- The property of a signature line and the docs under it. -/
def PropertyLine.property (line : PropertyLine) (rawDocs : List Char) : Property :=
  let optional := contains optionalMark line.name || contains optionalMark line.flags
  let text := trim (removeFirst optionalMark line.name)
  let name := text.takeWhile fun c => !isBlank c
  let annotation := trim (text.dropWhile fun c => !isBlank c)
  let docs := cleanDocs rawDocs
  let docs := if annotation.isEmpty then docs else joinDocs annotation docs
  let docs := if optional then joinDocs optionalMark docs else docs
  { type := String.ofList line.type
    name := String.ofList name
    flags := parseFlags line.flags
    docs := String.ofList docs }

/-- The property that a block documents. -/
def property? (text : List Char) : Option Property :=
  let (line, docs) := cutLine text
  (propertyLine? line).map fun parts => parts.property (docs.getD [])

end BusDoc.Doc
