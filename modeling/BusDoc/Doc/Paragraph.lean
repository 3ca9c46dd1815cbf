import BusDoc.Text.Lines

/-!
# Paragraphs of documentation

Documentation text stands indented under its signature. `cleanDocs` removes the indentation that
all its lines share and the blanks around it; lines keep their indentation relative to each other.
-/

namespace BusDoc.Doc

open Text

/-- The least of the numbers; zero if there is none. -/
def leastOr0 : List Nat → Nat
  | [] => 0
  | n :: ns => ns.foldl min n

/-- The indentation that all non-blank lines share. -/
def commonIndent (ls : List (List Char)) : Nat :=
  leastOr0 ((ls.filter fun l => !allBlank l).map indentOf)

/-- A line without `n` characters at its start and the blanks at its end; a blank line is empty. -/
def dedentLine (n : Nat) (l : List Char) : List Char :=
  if allBlank l then [] else trimEnd (l.drop n)

/-- The paragraph without its common indentation, blanks at line ends and blanks around it. -/
def cleanDocs (raw : List Char) : List Char :=
  let ls := lines raw
  trim (unlines (ls.map (dedentLine (commonIndent ls))))

/-- The text in front of a paragraph, on its first line. -/
def joinDocs (front docs : List Char) : List Char :=
  if docs.isEmpty then front else front ++ ' ' :: docs

end BusDoc.Doc
