import BusDoc.SortedSet
import BusDoc.Text.Lines
import BusDoc.Text.Letter
import BusDoc.Text.Search

/-!
# Declared errors

The docs of a method list the errors it may fail with behind `Possible errors:`, on the same line
and on the lines that follow as long as they hold nothing else. An error name is two or more
identifiers joined by dots.
-/

namespace BusDoc.Doc

open Text

/-- `c` is the given small letter up to case. The long s (U+017F) is a form of `s`. -/
def isLetter (letter c : Char) : Bool :=
  asciiLower c == letter || (letter == 's' && c.toNat == 0x17F)

/-- The text behind `word`, which it starts with in any case. -/
def afterWord? : (word s : List Char) → Option (List Char)
  | [], s => some s
  | _ :: _, [] => none
  | a :: word, c :: s => if isLetter a c then afterWord? word s else none

/-- The text behind the marker that it starts with. -/
def afterMarker? (s : List Char) : Option (List Char) := do
  let s ← afterWord? "possible".toList s
  let rest := s.dropWhile isBlank
  if rest.length = s.length then none
  let s ← afterWord? "errors".toList rest
  match s.dropWhile isBlank with
  | ':' :: rest => some rest
  | _ => none

/-- The text behind the leftmost marker in a line. -/
def markerRest? : List Char → Option (List Char)
  | [] => none
  | c :: s => match afterMarker? (c :: s) with
    | some rest => some rest
    | none => markerRest? s

/-- The words of a list: what stands between blanks and commas. -/
def listWords (line : List Char) : List (List Char) := words (fun c => isBlank c || c == ',') line

/-- An identifier. -/
def isIdent : List Char → Bool
  | [] => false
  | c :: s => isIdentStart c && s.all isIdentRest

/-- Two or more identifiers joined by dots. -/
def isErrorName (word : List Char) : Bool :=
  let parts := splitOn '.' word
  2 ≤ parts.length && parts.all isIdent

/-- The error names in the lines of a paragraph, `inList` telling that the line before belongs to
a list. -/
def errorsOfLines : (inList : Bool) → List (List Char) → List (List Char)
  | _, [] => []
  | inList, line :: rest =>
    match markerRest? line with
    | some listed => (listWords listed).filter isErrorName ++ errorsOfLines true rest
    | none =>
      let found := listWords line
      if inList && !found.isEmpty && found.all isErrorName then found ++ errorsOfLines true rest
      else errorsOfLines false rest

/-- The errors that a paragraph declares. -/
def declaredErrors (docs : List Char) : NameSet :=
  NameSet.ofList ((errorsOfLines false (lines docs)).map String.ofList)

end BusDoc.Doc
