import BusDoc.Text.Lines
import BusDoc.Text.Quoted

/-!
# Blocks of documentation

A section of a documentation file holds blocks, each documenting one member of an interface. Lines
are numbered from 1 and have their tabs expanded. A block begins at the first line of a section
that is not blank, and again at every such line after a blank one that is indented no deeper than
the first.

* `cutBefore_flatten`: cutting a list at marks loses nothing.
-/

namespace BusDoc.Doc

open Text

/-- The kind of member that a block documents. -/
inductive BlockKind
  | property | method | signal
  deriving DecidableEq, Repr, Inhabited

namespace BlockKind

/-- The kind in messages. -/
def text : BlockKind → String
  | property => "property"
  | method => "method"
  | signal => "signal"

end BlockKind

/-- The text that documents one member, and the number of the line it begins at. -/
structure Block where
  kind : BlockKind
  text : List Char
  line : Nat := 1
  deriving DecidableEq, Repr, Inhabited

namespace Block

/-- The first line of the block, cut after 60 characters. -/
def snippet (b : Block) : String :=
  let first := trim ((lines b.text).headD [])
  String.ofList (if first.length > 60 then first.take 60 ++ "...".toList else first)

end Block

/-! ## Lines -/

/-- The distance of tab stops. -/
def tabWidth : Nat := 8

/-- The text with each tab replaced by the spaces up to the next tab stop, the first character
standing at the given column. -/
def expandFrom : (column : Nat) → List Char → List Char
  | _, [] => []
  | column, c :: s =>
    if c = '\t' then
      let pad := tabWidth - column % tabWidth
      List.replicate pad ' ' ++ expandFrom (column + pad) s
    else c :: expandFrom (column + 1) s

/-- The line with its tabs expanded and the blanks at its end removed. -/
def expandTabs (line : List Char) : List Char := trimEnd (expandFrom 0 line)

/-- A line of a file. -/
structure Line where
  number : Nat
  text : List Char
  deriving DecidableEq, Repr, Inhabited

namespace Line

/-- The line holds nothing but blanks. -/
def isBlank (l : Line) : Bool := allBlank l.text

/-- The number of spaces and tabs that the line starts with. -/
def indent (l : Line) : Nat := indentOf l.text

end Line

/-- The lines of a file, numbered from `start`, with tabs expanded. -/
def numberLines (start : Nat) : List (List Char) → List Line
  | [] => []
  | l :: ls => ⟨start, expandTabs l⟩ :: numberLines (start + 1) ls

/-- The lines of a file. -/
def fileLines (content : List Char) : List Line := numberLines 1 (lines content)

/-! ## Cutting a list at marks -/

/-- What stands before the first marked element, and the runs from each marked element up to the
next. -/
def cutBefore {α : Type} (marked : α → Bool) : List α → List α × List (List α)
  | [] => ([], [])
  | x :: xs =>
    let (front, runs) := cutBefore marked xs
    if marked x then ([], (x :: front) :: runs) else (x :: front, runs)

theorem cutBefore_flatten {α : Type} (marked : α → Bool) (xs : List α) :
    (cutBefore marked xs).1 ++ (cutBefore marked xs).2.flatten = xs := by
  induction xs with
  | nil => rfl
  | cons x xs ih =>
    simp only [cutBefore]
    split <;> simp [ih]

/-! ## Sections into blocks -/

/-- Each line with the information whether a block begins there, `afterBlank` telling that the
line before the first was blank. -/
def markStarts (indent : Nat) : (afterBlank : Bool) → List Line → List (Line × Bool)
  | _, [] => []
  | afterBlank, l :: ls =>
    (l, afterBlank && !l.isBlank && l.indent ≤ indent) :: markStarts indent l.isBlank ls

/-- A line of a block without the indentation of the section's signatures. -/
def blockLine (indent : Nat) (l : Line) : List Char :=
  if l.isBlank then [] else l.text.drop (min indent l.indent)

/-- The block made of the given lines. -/
def blockOfLines (kind : BlockKind) (indent : Nat) (ls : List Line) : Block where
  kind := kind
  text := trimEnd (unlines (ls.map (blockLine indent)))
  line := (ls.head?.map Line.number).getD 1

/-- The blocks of a section. -/
def splitBlocks (kind : BlockKind) (ls : List Line) : List Block :=
  match ls.find? fun l => !l.isBlank with
  | none => []
  | some first =>
    (cutBefore Prod.snd (markStarts first.indent true ls)).2.map fun run =>
      blockOfLines kind first.indent (run.map Prod.fst)

end BusDoc.Doc
